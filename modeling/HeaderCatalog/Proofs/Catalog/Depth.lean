import HeaderCatalog.Proofs.Catalog.Gating
import HeaderCatalog.Proofs.Declaration.RoundTrip
import HeaderCatalog.Proofs.TypeInfo.Level

/-!
# A catalogue may nest too deep to be read back

What is written of a catalogue is read back if it nests at most as deep as a reader allows. No extraction promises
that: a type unfolds into a document that nests one deeper than that of its pointee (`depth_lt_of_pointee`), so a chain
of pointers (`Example.chain`) gives a catalogue that nests as deep as the chain is long. The boundary and the chains
are put together in `Catalog.ofText_written`.
-/

namespace HeaderCatalog

open Json

/-! ## Depths of documents -/

/-- A type nests deeper than its pointee. -/
theorem TypeInfo.depth_lt_of_pointee {t pointee : TypeInfo} (h : t.pointee? = some pointee) :
    pointee.toJson.depth < t.toJson.depth := by
  obtain ⟨name, file?, kind, nullability, canonical, canonicalKind, size?, alignment?, element?, pointee?, arraySize?,
    block?⟩ := t
  cases h
  rw [toJson, toJson?_eq_map]
  exact depth_lt_record "pointeeType" (by simp [toJson?])

/-- A catalogue nests deeper than the type of any property in it. -/
theorem Catalog.depth_lt_of_property {c : Catalog} {i : Interface} (hi : i ∈ c.interfaces) {p : Property}
    (hp : p ∈ i.properties) : p.type.toJson.depth < c.toJson.depth :=
  calc p.type.toJson.depth
    _ < p.toJson.depth := depth_lt_record "type" (by simp)
    _ < (Json.array (i.properties.map Property.toJson)).depth := depth_lt_array hp
    _ < i.toJson.depth := depth_lt_record "properties" (by simp)
    _ < (Json.array (c.interfaces.map Interface.toJson)).depth := depth_lt_array hi
    _ < c.toJson.depth := depth_lt_record "interfaces" (by simp)

/-! ## Unfolding a pointer -/

/-- What a type unfolds into has the unfolded pointee in it. -/
theorem TypeOracle.pointee_of_resolve {τ δ : Type} {o : TypeOracle τ δ} {depth : Nat} {t : τ} {v : TypeView τ}
    {info : TypeInfo} (hv : o.view t = .ok v) (h : o.resolve (depth + 1) t = .ok info) :
    v.pointee?.mapM (o.resolve depth) = .ok info.pointee? := by
  obtain ⟨w, c, hout⟩ := resolve_succ_eq_ok_iff.mp h
  obtain rfl : w = v := eq_of_eq_ok hout.view hv
  exact option_mapM_eq_ok_iff.mpr hout.pointee

namespace Snapshot.Example

/-! ## Chains of pointers -/

/-- The type at a place of a chain: a pointer to the one before it. -/
def link : Nat → TypeNode
  | 0 => .builtin "int" "Int" 4
  | k + 1 => .pointer "int *" (.ofNat k)

/-- The cursor of a header with one class. -/
def chainRoot : CursorNode := { CursorNode.blank .translationUnit "" with children := [.ofNat 1] }

/-- The cursor of a class with one property. -/
def chainClass : CursorNode := { CursorNode.blank .interfaceDeclaration "A" with children := [.ofNat 2] }

/-- The cursor of a property whose type stands at the given place. -/
def chainEnd (n : Nat) : CursorNode := { CursorNode.blank .propertyDeclaration "p" with type? := some (.ofNat n) }

/-- A class with one property, whose type is the end of a chain of so many pointers. -/
def chain (n : Nat) : Snapshot where
  root := .ofNat 0
  cursors := #[chainRoot, chainClass, chainEnd n]
  types := Array.ofFn fun k : Fin (n + 1) => link k

theorem toNat_ofNat {k : Nat} (hk : k < 4294967296) : (TypeId.ofNat k).toNat = k := UInt32.toNat_ofNat_of_lt hk

/-- A link points to the one before it, and to nothing else. -/
theorem eq_of_hasPart_link {k : Nat} {id : TypeId} (h : (link k).HasPart id) : ∃ j, k = j + 1 ∧ id = .ofNat j := by
  cases k with
  | zero => rcases h with h | h | h | ⟨h, -⟩ <;> cases h
  | succ j =>
    rcases h with h | h | h | ⟨h, -⟩ <;> cases h
    exact ⟨j, rfl, rfl⟩

variable {n : Nat}

theorem getElem?_chain {k : Nat} {t : TypeNode} : (chain n).types[k]? = some t ↔ k ≤ n ∧ link k = t := by
  simp only [chain, Array.getElem?_ofFn, Option.dite_none_right_eq_some, Option.some.injEq, exists_prop,
    Nat.lt_succ_iff]

theorem eq_of_cursors_chain {i : Nat} {c : CursorNode} (h : (chain n).cursors[i]? = some c) :
    (i = 0 ∧ c = chainRoot) ∨ (i = 1 ∧ c = chainClass) ∨ (i = 2 ∧ c = chainEnd n) := by
  match i, h with
  | 0, h => exact Or.inl ⟨rfl, (Option.some.inj h).symm⟩
  | 1, h => exact Or.inr (Or.inl ⟨rfl, (Option.some.inj h).symm⟩)
  | 2, h => exact Or.inr (Or.inr ⟨rfl, (Option.some.inj h).symm⟩)

section Sound

variable (hn : n < 4294967296)

include hn

theorem hasType_chain {k : Nat} (hk : k ≤ n) : (chain n).hasType (.ofNat k) = true := by
  simp [hasType, chain, toNat_ofNat (show k < 4294967296 by omega), Nat.lt_succ_of_le hk]

theorem linked_chain : (chain n).Linked where
  root := rfl
  cursors i c hc := by
    rcases eq_of_cursors_chain hc with ⟨-, rfl⟩ | ⟨-, rfl⟩ | ⟨-, rfl⟩
    · exact ⟨fun id hid => List.mem_singleton.mp hid ▸ rfl, nofun, nofun, nofun, nofun, nofun⟩
    · exact ⟨fun id hid => List.mem_singleton.mp hid ▸ rfl, nofun, nofun, nofun, nofun, nofun⟩
    · refine ⟨nofun, nofun, nofun, nofun, fun id hid => ?_, nofun⟩
      cases hid
      exact hasType_chain hn (Nat.le_refl n)
  types k t ht := by
    obtain ⟨hk, rfl⟩ := getElem?_chain.mp ht
    refine ⟨?_, fun id hid => ?_, ?_⟩
    · cases k <;> nofun
    · obtain ⟨j, rfl, rfl⟩ := eq_of_hasPart_link hid
      exact hasType_chain hn (by omega)
    · cases k <;> nofun

/-- Children stand behind what they belong to, parts before it. -/
theorem sound_chain : (chain n).Sound where
  toLinked := linked_chain hn
  children_acyclic := Graph.acyclic_of_le (s := (· < ·)) <| by
    rintro i j ⟨c, hc, id, hid, rfl⟩
    rcases eq_of_cursors_chain hc with ⟨rfl, rfl⟩ | ⟨rfl, rfl⟩ | ⟨rfl, rfl⟩
    · rw [List.mem_singleton.mp hid]
      decide
    · rw [List.mem_singleton.mp hid]
      decide
    · cases hid
  parts_acyclic := Graph.acyclic_of_le (s := (· > ·)) <| by
    rintro i j ⟨t, ht, id, hid, rfl⟩
    obtain ⟨hi, rfl⟩ := getElem?_chain.mp ht
    obtain ⟨j, rfl, rfl⟩ := eq_of_hasPart_link hid
    rw [toNat_ofNat (by omega)]
    exact Nat.lt_succ_self j

/-- A link nests at least as deep as there are links before it. -/
theorem le_depth_of_resolve {depth k : Nat} {info : TypeInfo} (hk : k ≤ n)
    (h : (chain n).typeOracle.resolve depth (.ofNat k) = .ok info) : k ≤ info.toJson.depth := by
  induction k generalizing depth info with
  | zero => exact Nat.zero_le _
  | succ k ih =>
    cases depth with
    | zero => cases h
    | succ depth =>
      have htype : (chain n).type (.ofNat (k + 1)) = .ok (link (k + 1)) := by
        rw [type_eq_ok_iff, toNat_ofNat (by omega)]
        exact getElem?_chain.mpr ⟨hk, rfl⟩
      have hpointee := TypeOracle.pointee_of_resolve (typeOracle_view htype) h
      obtain ⟨inner, hinner, hsome⟩ := exists_of_map_eq_ok hpointee
      have hle := ih (by omega) hinner
      have hlt := TypeInfo.depth_lt_of_pointee hsome.symm
      omega

/-- The property nests as deep as its type. -/
theorem exists_property_chain : ∃ d, (chain n).property Options.standard.policy (chainEnd n) = .ok (.ok d) ∧
    n ≤ d.type.toJson.depth ∧ d.notes = [] := by
  obtain ⟨info, hinfo⟩ := (sound_chain hn).exists_resolve (hasType_chain hn (Nat.le_refl n))
  have hresolve : (chain n).resolveOrInvalid (some (.ofNat n)) = .ok info := hinfo _ (Nat.lt_succ_self _)
  have hdepth : n ≤ info.toJson.depth := le_depth_of_resolve hn (Nat.le_refl n) hresolve
  unfold property
  simp only [show (chainEnd n).type? = some (.ofNat n) from rfl, hresolve, ok_bind]
  exact ⟨_, gated_eq_ok_iff.mpr ⟨rfl, rfl⟩, hdepth, rfl⟩

omit hn in
/-- The class with the property is all that is found. -/
theorem findings_chain {d : Property}
    (hd : (chain n).property Options.standard.policy (chainEnd n) = .ok (.ok d)) :
    ∃ log, (chain n).findings .standard = .ok [.interface (.ofMembers chainClass [] [.property d]) log] := by
  have hmember : (chain n).member Options.standard.policy (.ofNat 2) = .ok (.property d) :=
    (member_eq_ok_iff (c := chainEnd n) rfl).mpr (.property rfl hd)
  have hmembers := mapM_eq_ok_iff.mpr (List.Forall₂.cons hmember .nil)
  have hclass : (chain n).interface Options.standard.policy chainClass =
      .ok (.ok (.ofMembers chainClass [] [.property d], _)) :=
    interface_eq_ok_iff.mpr ⟨rfl, _, hmembers, rfl, rfl⟩
  have hfinding : (chain n).finding .standard (.ofNat 1) = .ok (.interface _ _) :=
    finding_eq_interface_iff.mpr ⟨_, rfl, rfl, rfl, rfl, hclass⟩
  exact ⟨_, findings_eq_ok_iff.mpr ⟨chainRoot, rfl, mapM_eq_ok_iff.mpr (.cons hfinding .nil)⟩⟩

/-- The catalogue of a chain nests deeper than there are links. -/
theorem extract_chain : ∃ catalog log, (chain n).extract .standard = .ok (catalog, log) ∧ catalog.versions = [] ∧
    n < catalog.toJson.depth := by
  obtain ⟨d, hd, hdepth, hnotes⟩ := exists_property_chain hn
  obtain ⟨log, hfindings⟩ := findings_chain hd
  let i := Interface.ofMembers chainClass [] [.property d]
  have hextract := extract_of_findings (validate_of_sound (sound_chain hn)) hfindings
  refine ⟨.ofInterfaces .standard [i], _, hextract, ?_, ?_⟩
  · show i.versions ++ [] = []
    simp [i, Interface.versions, Interface.ofMembers, notesVersions, hnotes, Member.property?, Member.instanceMethod?,
      Member.classMethod?]
  · have hi : i ∈ (Catalog.ofInterfaces .standard [i]).interfaces := List.mem_singleton_self i
    have hlt := Catalog.depth_lt_of_property hi (List.mem_singleton_self d)
    exact lt_of_le_of_lt hdepth hlt

end Sound

end Snapshot.Example

/-! ## The boundary -/

/-- **What is written is read back as far as nesting is allowed.** Either written form of a catalogue with normal
versions is read as that catalogue exactly if it nests at most 127 deep, and refused for its depth if it nests deeper;
and there are snapshots whose catalogues nest as deep as positions can be numbered. -/
theorem Catalog.ofText_written :
    (∀ c : Catalog, (∀ v ∈ c.versions, v.IsNormal) → ∀ text, c.WrittenAs text →
        (ofText text = .ok c ↔ nesting text ≤ 127) ∧
          (127 < nesting text → ∃ p, ofText text = .error p ∧ p.cause.message = "recursion limit exceeded")) ∧
    ∀ n < 4294967296, ∃ s : Snapshot, s.validate = .ok () ∧ ∃ catalog log, s.extract .standard = .ok (catalog, log) ∧
      (∀ v ∈ catalog.versions, v.IsNormal) ∧ n < nesting catalog.toJson.compactText := by
  refine ⟨fun c hnormal text htext => ⟨ofText_eq_ok_iff hnormal htext, fun hdeep => ?_⟩, fun n hn => ?_⟩
  · obtain ⟨p, hp, hcause⟩ := tooDeep_of_nesting hnormal htext hdeep
    exact ⟨p, hp, by rw [hcause]; rfl⟩
  · obtain ⟨catalog, log, hextract, hversions, hdepth⟩ := Snapshot.Example.extract_chain hn
    refine ⟨_, Snapshot.validate_of_sound (Snapshot.Example.sound_chain hn), catalog, log, hextract, ?_, ?_⟩
    · simp [hversions]
    · rwa [nesting_compactText]

/-- A catalogue that is read back from both forms, and one that is extracted and refused. -/
theorem Snapshot.Example.ofText_mixed_chain :
    Catalog.ofText mixedCatalog.toJson.compactText = .ok mixedCatalog ∧
      Catalog.ofText mixedCatalog.toJson.prettyText = .ok mixedCatalog ∧
      ∃ s : Snapshot, s.validate = .ok () ∧ ∃ catalog log, s.extract .standard = .ok (catalog, log) ∧
        ∃ p, Catalog.ofText catalog.toJson.compactText = .error p ∧
          p.cause.message = "recursion limit exceeded" := by
  have hnormal : ∀ v ∈ mixedCatalog.versions, v.IsNormal := by decide
  have hdepth : mixedCatalog.toJson.depth ≤ 127 := by decide
  refine ⟨?_, ?_, ?_⟩
  · exact (Catalog.ofText_written.1 _ hnormal _ (.inl rfl)).1.mpr (by rwa [nesting_compactText])
  · exact (Catalog.ofText_written.1 _ hnormal _ (.inr rfl)).1.mpr (by rwa [nesting_prettyText])
  · obtain ⟨s, hvalid, catalog, log, hextract, hnormal, hdeep⟩ := Catalog.ofText_written.2 127 (by decide)
    exact ⟨s, hvalid, catalog, log, hextract, (Catalog.ofText_written.1 _ hnormal _ (.inl rfl)).2 hdeep⟩

end HeaderCatalog
