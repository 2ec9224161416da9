import HeaderCatalog.Proofs.Availability
import HeaderCatalog.Snapshot.Load

/-!
# A snapshot is loaded as it was written

Whatever is in a snapshot, its written form is read back as the same snapshot, node by node and part by part, if its
versions are normal (`reads_toJson`). Whatever a text says, the snapshot that is loaded from it has normal versions
(`yields_isNormal`). So a sound snapshot survives being written and loaded, and loading settles a text: what was
loaded once is written and loaded alike from then on (`ofText_text`).
-/

namespace HeaderCatalog

open Json

/-! ## Parts of nodes -/

/-- A position is read back. -/
theorem CursorId.reads_toJson (id : CursorId) : Reads read id.toJson id := (reads_uint32 id.index).map CursorId.mk

/-- A position is read back. -/
theorem TypeId.reads_toJson (id : TypeId) : Reads read id.toJson id := (reads_uint32 id.index).map TypeId.mk

/-- A kind is read back by its name. -/
theorem CursorKind.reads_toJson (kind : CursorKind) : Reads read kind.toJson kind :=
  reads_variant (by rw [ofName_name])

/-- How a type treats null is read back by its name. -/
theorem Nullability.reads_toJson (nullability : Nullability) : Reads read nullability.toJson nullability :=
  reads_variant (by rw [ofName?_name])

/-- A cursor as a part of a node. -/
theorem part_cursor (id : CursorId) : Reads CursorId.read id.toJson id ∧ id.toJson ≠ .null := ⟨id.reads_toJson, nofun⟩

/-- A type as a part of a node. -/
theorem part_type (id : TypeId) : Reads TypeId.read id.toJson id ∧ id.toJson ≠ .null := ⟨id.reads_toJson, nofun⟩

/-! ## Nodes -/

/-- A cursor is read back, every part as it was. -/
theorem CursorNode.reads_toJson {c : CursorNode} (h : ∀ v ∈ c.availability.versions, v.IsNormal) :
    Reads schema.read c.toJson c := by
  refine reads_of_fills (by decide) ?_
  refine .required c.kind.reads_toJson ?_
  refine .defaulted (reads_text _) ?_
  refine .optionalText rfl ?_
  refine .optionalText rfl ?_
  refine .defaulted (reads_bool _) ?_
  refine .defaulted (reads_list fun id _ => id.reads_toJson) ?_
  refine .optional (fun id _ => part_type id) rfl ?_
  refine .optional (fun id _ => part_type id) rfl ?_
  refine .defaulted (reads_list fun id _ => id.reads_toJson) ?_
  refine .optional (fun k _ => ⟨reads_int32 k, nofun⟩) rfl ?_
  refine .defaulted (reads_uint32 _) ?_
  refine .optionalText rfl ?_
  refine .optionalText rfl ?_
  refine .defaulted (Availability.reads_toJson h) ?_
  refine .optional (fun id _ => part_cursor id) rfl ?_
  refine .optional (fun id _ => part_cursor id) rfl ?_
  exact .done

/-- Of a cursor's parts only its availability names versions. -/
theorem CursorNode.yields_isNormal : Yields schema.read fun c => ∀ v ∈ c.availability.versions, v.IsNormal := by
  refine yields_read (by simp [schema, blank, Availability.blank, Availability.versions]) ?_
  simp only [schema, List.forall_mem_cons, List.not_mem_nil, false_implies, implies_true, and_true]
  refine ⟨?_, ?_, ?_, ?_, ?_, ?_, ?_, ?_, ?_, ?_, ?_, ?_, ?_, ?_, ?_, ?_⟩
  case refine_14 => exact keeps_of_set Availability.yields_isNormal fun _ ha _ _ => ha
  all_goals exact keeps_of_frame fun _ _ hdraft => hdraft

theorem CursorNode.depth_toJson_le (c : CursorNode) : c.toJson.depth ≤ 4 := by
  have hid : ∀ id : CursorId, id.toJson.depth ≤ 2 := fun _ => Nat.zero_le 2
  have havailability := c.availability.depth_toJson_le
  refine depth_record_le ?_
  simp [CursorKind.toJson, CursorId.toJson, TypeId.toJson, depth_array_le hid, havailability]

/-- A type is read back, every part as it was. -/
theorem TypeNode.reads_toJson (t : TypeNode) : Reads schema.read t.toJson t := by
  refine reads_of_fills (by decide) ?_
  refine .required (reads_text _) ?_
  refine .required (reads_text _) ?_
  refine .optional (fun id _ => part_type id) rfl ?_
  refine .defaulted t.nullability.reads_toJson ?_
  refine .defaulted (reads_int64 _) ?_
  refine .defaulted (reads_int64 _) ?_
  refine .optional (fun id _ => part_type id) rfl ?_
  refine .defaulted (reads_int64 _) ?_
  refine .optional (fun id _ => part_type id) rfl ?_
  refine .optional (fun id _ => part_type id) rfl ?_
  refine .optional (fun ids _ => ⟨reads_list fun id _ => id.reads_toJson, nofun⟩) rfl ?_
  refine .optional (fun id _ => part_cursor id) rfl ?_
  exact .done

theorem TypeNode.depth_toJson_le (t : TypeNode) : t.toJson.depth ≤ 2 := by
  have hid : ∀ id : TypeId, id.toJson.depth ≤ 0 := fun _ => Nat.zero_le 0
  refine depth_record_le ?_
  simp [Nullability.toJson, CursorId.toJson, TypeId.toJson, depth_array_le hid]

/-! ## Snapshots -/

namespace Snapshot

/-- All versions that a snapshot names. -/
def versions (s : Snapshot) : List Version := s.cursors.toList.flatMap fun c => c.availability.versions

/-- A snapshot is read back node by node. -/
theorem reads_toJson {s : Snapshot} (h : ∀ v ∈ s.versions, v.IsNormal) : Reads schema.read s.toJson s := by
  have hcursors : ∀ c ∈ s.cursors.toList, Reads CursorNode.schema.read c.toJson c := fun c hc =>
    CursorNode.reads_toJson fun v hv => h v (List.mem_flatMap_of_mem hc hv)
  refine reads_of_fills (by decide) ?_
  refine .defaulted s.root.reads_toJson ?_
  refine .defaulted (reads_list hcursors) ?_
  refine .defaulted (reads_list fun t _ => t.reads_toJson) ?_
  exact .done

/-- The nesting of a document is that of a snapshot's deepest note. -/
theorem depth_toJson_le (s : Snapshot) : s.toJson.depth ≤ 6 := by
  have hcursors := depth_array_le CursorNode.depth_toJson_le s.cursors.toList
  have htypes := le_trans (depth_array_le TypeNode.depth_toJson_le s.types.toList) (show 3 ≤ 5 by decide)
  refine depth_record_le ?_
  simp [CursorId.toJson, -List.map_toArray, hcursors, htypes]

theorem depth_toJson_le_maxDepth (s : Snapshot) : s.toJson.depth ≤ maxDepth := le_trans s.depth_toJson_le (by decide)

/-- Every snapshot that is ever read has normal versions. -/
theorem yields_isNormal : Yields schema.read fun s => ∀ v ∈ s.versions, v.IsNormal := by
  refine yields_read (by simp [schema, blank, versions]) ?_
  simp only [schema, List.forall_mem_cons, List.not_mem_nil, false_implies, implies_true, and_true]
  refine ⟨keeps_of_frame fun _ _ hdraft => hdraft, ?_, keeps_of_frame fun _ _ hdraft => hdraft⟩
  refine keeps_of_set CursorNode.yields_isNormal.list fun cursors hcursors draft _ v hv => ?_
  obtain ⟨c, hc, hv⟩ := List.mem_flatMap.mp hv
  exact hcursors c hc v hv

/-- A document that is read as a sound snapshot is loaded as that snapshot. -/
theorem ofText_of_read {s : Snapshot} {j : Json} (h : s.validate = .ok ()) (hread : schema.read maxDepth j.tree = .ok s) :
    ofText j.compactText = .ok s := by
  rw [ofText, Reader.run, ofText_compactText, hread]
  simp only [Except.mapError, h, bind, Except.bind]
  rfl

/-- A sound snapshot with normal versions is loaded from its written form. -/
theorem ofText_of_validate {s : Snapshot} (h : s.validate = .ok ()) (hnormal : ∀ v ∈ s.versions, v.IsNormal) :
    ofText s.text = .ok s :=
  ofText_of_read h ((reads_toJson hnormal maxDepth).ok s.depth_toJson_le_maxDepth)

/-- What is loaded is sound and has normal versions. -/
theorem validate_of_ofText {given : String} {s : Snapshot} (h : ofText given = .ok s) :
    s.validate = .ok () ∧ ∀ v ∈ s.versions, v.IsNormal := by
  obtain ⟨t, hread, h⟩ := exists_of_bind_eq_ok h
  obtain ⟨_, hvalid, h⟩ := exists_of_bind_eq_ok h
  cases h
  exact ⟨eq_ok_of_mapError hvalid, yields_isNormal maxDepth _ s (eq_ok_of_mapError hread)⟩

/-- **Writing and loading.** A sound snapshot with normal versions is loaded from its written form, every part as it
was; and what is loaded from any text at all is written, loaded and written again alike. -/
theorem ofText_text :
    (∀ s : Snapshot, s.validate = .ok () → (∀ v ∈ s.versions, v.IsNormal) → ofText s.text = .ok s) ∧
      ∀ (given : String) (s : Snapshot), ofText given = .ok s →
        ∃ again, ofText s.text = .ok again ∧ again = s ∧ again.text = s.text := by
  refine ⟨fun s => ofText_of_validate, fun given s h => ?_⟩
  obtain ⟨hvalid, hnormal⟩ := validate_of_ofText h
  exact ⟨s, ofText_of_validate hvalid hnormal, rfl, rfl⟩

namespace Example

/-- A header of which nothing but itself is known. -/
def bare : Snapshot where
  root := .ofNat 0
  cursors := #[CursorNode.blank .translationUnit "a.h"]
  types := #[]

/-- A function whose type takes no arguments, with a note, and with characters that are not written as they are. -/
def noted : Snapshot where
  root := .ofNat 0
  cursors := #[
    { CursorNode.blank .translationUnit "" with children := [.ofNat 1] },
    { CursorNode.blank .functionDeclaration "\"f\"\n\x01" with
      type? := some (.ofNat 0)
      argumentCount? := some (-1)
      availability := { Availability.blank with
        notes := [{ PlatformNote.blank "macos" with introduced? := some ⟨10, some 4, none⟩ }] } }]
  types := #[{ TypeNode.blank "void (void)" "FunctionPrototype" with arguments? := some [] }]

/-- It is loaded as it was written, and so is what was loaded. -/
theorem ofText_text_noted : noted.validate = .ok () ∧ (∀ v ∈ noted.versions, v.IsNormal) ∧
    ofText noted.text = .ok noted ∧
      ∃ again, ofText noted.text = .ok again ∧ again = noted ∧ again.text = noted.text := by
  have hvalid : noted.validate = .ok () := rfl
  have hnormal : ∀ v ∈ noted.versions, v.IsNormal := by decide
  have hload := ofText_text.1 noted hvalid hnormal
  exact ⟨hvalid, hnormal, hload, ofText_text.2 noted.text noted hload⟩

end Example

end Snapshot

end HeaderCatalog
