import HeaderCatalog.Declaration.Document
import HeaderCatalog.Proofs.Json.Nesting
import HeaderCatalog.Proofs.TypeInfo.RoundTrip

/-!
# Catalogues are read back

What is written of a declaration is read back as it was, if the versions in its notes are normal (`reads_toJson`), as
far as the nesting allowance goes. Of a whole catalogue this decides what comes of either written form, by how deep
the text nests (`Catalog.ofText_eq_ok_iff`, `Catalog.tooDeep_of_nesting`).
-/

namespace HeaderCatalog

open Json

/-! ## Members -/

/-- A parameter is read back. -/
theorem Parameter.reads_toJson (p : Parameter) : Reads schema.read p.toJson p := by
  refine reads_of_fills (by decide) ?_
  refine .required (reads_text _) ?_
  refine .required p.type.reads_toJson ?_
  refine .required (reads_text _) ?_
  exact .done

/-- A method is read back. -/
theorem Method.reads_toJson {m : Method} (h : ∀ v ∈ notesVersions m.notes, v.IsNormal) :
    Reads schema.read m.toJson m := by
  refine reads_of_fills (by decide) ?_
  refine .required (reads_text _) ?_
  refine .required (reads_list fun p _ => p.reads_toJson) ?_
  refine .required m.result.reads_toJson ?_
  refine .required (reads_text _) ?_
  refine .required (reads_notes h) ?_
  exact .done

/-- A property is read back. -/
theorem Property.reads_toJson {p : Property} (h : ∀ v ∈ notesVersions p.notes, v.IsNormal) :
    Reads schema.read p.toJson p := by
  refine reads_of_fills (by decide) ?_
  refine .required (reads_text _) ?_
  refine .required p.type.reads_toJson ?_
  refine .required (reads_text _) ?_
  refine .required (reads_text _) ?_
  refine .required (reads_bool _) ?_
  refine .required (reads_bool _) ?_
  refine .required (reads_bool _) ?_
  refine .required (reads_bool _) ?_
  refine .required (reads_notes h) ?_
  exact .done

/-! ## Classes -/

/-- A named class is read back. -/
theorem ClassReference.reads_toJson (c : ClassReference) : Reads schema.read c.toJson c := by
  refine reads_of_fills (by decide) ?_
  refine .required (reads_text _) ?_
  refine .required (reads_text _) ?_
  exact .done

namespace Interface

/-- The versions that a class names, itself and in its members. -/
def versions (i : Interface) : List Version :=
  notesVersions i.notes ++ i.properties.flatMap (notesVersions ·.notes) ++
    i.instanceMethods.flatMap (notesVersions ·.notes) ++ i.classMethods.flatMap (notesVersions ·.notes)

/-- A class is read back, member by member. -/
theorem reads_toJson {i : Interface} (h : ∀ v ∈ i.versions, v.IsNormal) : Reads schema.read i.toJson i := by
  simp only [versions, List.forall_mem_append] at h
  obtain ⟨⟨⟨hnotes, hproperties⟩, hinstance⟩, hclass⟩ := h
  refine reads_of_fills (by decide) ?_
  refine .required (reads_text _) ?_
  refine .required (reads_text _) ?_
  refine .optional (fun c _ => ⟨c.reads_toJson, nofun⟩) rfl ?_
  refine .defaulted (reads_list fun name _ => reads_text name) ?_
  refine .required (reads_list fun p hp => Property.reads_toJson fun v hv => hproperties v ?_) ?_
  · exact List.mem_flatMap_of_mem hp hv
  refine .required (reads_list fun m hm => Method.reads_toJson fun v hv => hinstance v ?_) ?_
  · exact List.mem_flatMap_of_mem hm hv
  refine .required (reads_list fun m hm => Method.reads_toJson fun v hv => hclass v ?_) ?_
  · exact List.mem_flatMap_of_mem hm hv
  refine .required (reads_notes hnotes) ?_
  refine .required (reads_text _) ?_
  exact .done

end Interface

/-! ## Catalogues -/

namespace Catalog

/-- The versions that a catalogue names. -/
def versions (c : Catalog) : List Version := c.interfaces.flatMap Interface.versions

/-- A catalogue is read back, class by class. -/
theorem reads_toJson {c : Catalog} (h : ∀ v ∈ c.versions, v.IsNormal) : Reads schema.read c.toJson c := by
  refine reads_of_fills (by decide) ?_
  refine .optionalText rfl ?_
  refine .required (reads_text _) ?_
  refine .required (reads_list fun i hi => Interface.reads_toJson fun v hv => h v ?_) ?_
  · exact List.mem_flatMap_of_mem hi hv
  exact .done

/-- A text is one of the written forms of a catalogue. -/
def WrittenAs (c : Catalog) (text : String) : Prop := text = c.toJson.compactText ∨ text = c.toJson.prettyText

/-- What comes of a written form depends on how deep it nests. -/
theorem answer_ofText {c : Catalog} (h : ∀ v ∈ c.versions, v.IsNormal) {text : String} (htext : c.WrittenAs text) :
    Answer maxDepth (nesting text) (ofText text) c := by
  rw [ofText, Reader.run]
  rcases htext with rfl | rfl
  · rw [ofText_compactText, nesting_compactText]
    exact reads_toJson h maxDepth
  · rw [ofText_prettyText, nesting_prettyText]
    exact reads_toJson h maxDepth

variable {c : Catalog} (h : ∀ v ∈ c.versions, v.IsNormal) {text : String} (htext : c.WrittenAs text)

include h htext

/-- A written form that nests too deep is refused as such. -/
theorem tooDeep_of_nesting (hdeep : maxDepth < nesting text) :
    ∃ p, ofText text = .error p ∧ p.cause = .tooDeep := by
  obtain ⟨path, hpath⟩ := (answer_ofText h htext).tooDeep hdeep
  exact ⟨_, hpath, rfl⟩

/-- A written form is read back exactly where it does not nest too deep. -/
theorem ofText_eq_ok_iff : ofText text = .ok c ↔ nesting text ≤ maxDepth := by
  refine ⟨fun hok => ?_, (answer_ofText h htext).ok⟩
  by_contra hdeep
  obtain ⟨p, herror, -⟩ := tooDeep_of_nesting h htext (Nat.not_le.mp hdeep)
  rw [herror] at hok
  cases hok

end Catalog

end HeaderCatalog
