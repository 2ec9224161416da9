import HeaderCatalog.Proofs.Catalog.Origin
import HeaderCatalog.Proofs.Catalog.Totality

/-!
# A header may be cut into pieces

A piece of a snapshot (`Snapshot.withRootChildren`) has some of the root's children for children of its root, and is
otherwise the same. Only the findings ask for the children of the root: no type, no member and no class asks for
those of any cursor but the class's own, which is not the root (`finding_withRootChildren`). So the findings of the
pieces are those of the whole, one piece after the other, and as a pass through the first classes of each piece goes
on like one through all of them, merging the catalogues of the pieces gives that of the whole (`extract_split`).
-/

namespace HeaderCatalog

theorem CursorId.toNat_inj {a b : CursorId} : a.toNat = b.toNat ↔ a = b := by
  cases a
  cases b
  simp [CursorId.toNat, UInt32.toNat_inj]

/-- The cursor with other children. -/
def CursorNode.withChildren (c : CursorNode) (ids : List CursorId) : CursorNode := { c with children := ids }

namespace Snapshot

/-- The snapshot with other children of its root. -/
def withRootChildren (s : Snapshot) (ids : List CursorId) : Snapshot :=
  { s with cursors := s.cursors.modify s.root.toNat (·.withChildren ids) }

variable {s : Snapshot} {ids : List CursorId}

/-! ## Lookups -/

theorem getElem?_withRootChildren (i : Nat) : (s.withRootChildren ids).cursors[i]? =
    s.cursors[i]?.map fun c => if s.root.toNat = i then c.withChildren ids else c := by
  unfold withRootChildren
  rw [Array.getElem?_modify]
  split <;> simp

@[simp]
theorem hasCursor_withRootChildren (id : CursorId) : (s.withRootChildren ids).hasCursor id = s.hasCursor id := by
  simp [hasCursor, withRootChildren]

/-- Every other cursor is the same. -/
theorem cursor_withRootChildren {id : CursorId} (h : s.root ≠ id) :
    (s.withRootChildren ids).cursor id = s.cursor id := by
  have hne : s.root.toNat ≠ id.toNat := fun heq => h (CursorId.toNat_inj.mp heq)
  unfold cursor cursor?
  simp only [getElem?_withRootChildren, if_neg hne, Option.map_id']

/-- The root has the given children. -/
theorem cursor_root_withRootChildren :
    (s.withRootChildren ids).cursor s.root = (s.cursor s.root).map (·.withChildren ids) := by
  unfold cursor cursor?
  rw [getElem?_withRootChildren]
  cases s.cursors[s.root.toNat]? with
  | none => rfl
  | some root => simp [Except.map]

/-- A question that does not ask for children is answered alike. -/
theorem cursor_bind_withRootChildren {α : Type} (id : CursorId) {f : CursorNode → Except Fault α}
    (hf : ∀ c, f (c.withChildren ids) = f c) : ((s.withRootChildren ids).cursor id >>= f) = (s.cursor id >>= f) := by
  by_cases h : s.root = id
  · rw [← h, cursor_root_withRootChildren]
    cases s.cursor s.root with
    | ok root => exact hf root
    | error fault => rfl
  · rw [cursor_withRootChildren h]

/-! ## Soundness -/

/-- What is a child in a piece is one in the whole. -/
theorem HasChild.of_withRootChildren {root : CursorNode} (hroot : s.cursor s.root = .ok root)
    (hsub : ids ⊆ root.children) {i j : Nat} (h : (s.withRootChildren ids).HasChild i j) : s.HasChild i j := by
  obtain ⟨c, hc, id, hid, hj⟩ := h
  rw [getElem?_withRootChildren] at hc
  obtain ⟨c, hc', rfl⟩ := Option.map_eq_some_iff.mp hc
  split at hid
  case isTrue hi =>
    rw [cursor_eq_ok_iff, hi] at hroot
    exact ⟨root, hroot, id, hsub hid, hj⟩
  case isFalse => exact ⟨c, hc', id, hid, hj⟩

/-- A piece is linked where the whole is. -/
theorem Linked.withRootChildren (hs : s.Linked) {root : CursorNode} (hroot : s.cursor s.root = .ok root)
    (hsub : ids ⊆ root.children) : (s.withRootChildren ids).Linked where
  root := by
    rw [hasCursor_withRootChildren]
    exact hs.root
  cursors i c hc := by
    rw [getElem?_withRootChildren] at hc
    obtain ⟨c, hc', rfl⟩ := Option.map_eq_some_iff.mp hc
    obtain ⟨hchildren, harguments, hreferenced, hdefinition, htype, hresult⟩ := hs.cursors i c hc'
    split
    case isTrue =>
      have hids : ∀ id ∈ ids, s.hasCursor id := fun id hid => (hs.cursorAnswers hroot).child id (hsub hid)
      constructor <;> simpa only [hasCursor_withRootChildren]
    case isFalse => constructor <;> simpa only [hasCursor_withRootChildren]
  types i t ht := by
    obtain ⟨hcanonical, hparts, hdeclaration⟩ := hs.types i t ht
    exact ⟨hcanonical, hparts, by simpa only [hasCursor_withRootChildren]⟩

/-- A piece is sound where the whole is. -/
theorem Sound.withRootChildren (hs : s.Sound) {root : CursorNode} (hroot : s.cursor s.root = .ok root)
    (hsub : ids ⊆ root.children) : (s.withRootChildren ids).Sound where
  toLinked := hs.toLinked.withRootChildren hroot hsub
  children_acyclic := Graph.acyclic_mono (fun _ _ => HasChild.of_withRootChildren hroot hsub) hs.children_acyclic
  parts_acyclic := hs.parts_acyclic

/-! ## Declarations -/

theorem fileOf?_withRootChildren (id? : Option CursorId) : (s.withRootChildren ids).fileOf? id? = s.fileOf? id? := by
  cases id? with
  | none => rfl
  | some id => exact cursor_bind_withRootChildren id fun _ => rfl

/-- A piece answers alike about types. -/
theorem typeOracle_withRootChildren : (s.withRootChildren ids).typeOracle = s.typeOracle := by
  have hdefinition : (s.withRootChildren ids).typeOracle.definition? = s.typeOracle.definition? :=
    funext fun id => cursor_bind_withRootChildren id fun _ => rfl
  have hfile : (s.withRootChildren ids).typeOracle.file? = s.typeOracle.file? :=
    funext fun id => cursor_bind_withRootChildren id fun _ => rfl
  exact TypeOracle.ext rfl rfl hdefinition hfile

theorem resolveOrInvalid_withRootChildren (id? : Option TypeId) :
    (s.withRootChildren ids).resolveOrInvalid id? = s.resolveOrInvalid id? := by
  unfold resolveOrInvalid
  rw [typeOracle_withRootChildren]
  rfl

variable {p : Policy}

theorem property_withRootChildren (c : CursorNode) : (s.withRootChildren ids).property p c = s.property p c := by
  unfold property
  simp only [resolveOrInvalid_withRootChildren]

theorem parameter_withRootChildren (argument? : Option CursorId) :
    (s.withRootChildren ids).parameter argument? = s.parameter argument? := by
  cases argument? with
  | none => rfl
  | some id =>
    simp only [parameter, resolveOrInvalid_withRootChildren]
    exact cursor_bind_withRootChildren id fun _ => rfl

theorem method_withRootChildren (c : CursorNode) : (s.withRootChildren ids).method p c = s.method p c := by
  unfold method
  simp only [resolveOrInvalid_withRootChildren, parameter_withRootChildren]

theorem classReference_withRootChildren (c : CursorNode) :
    (s.withRootChildren ids).classReference c = s.classReference c := by
  unfold classReference
  rw [fileOf?_withRootChildren]

theorem member_withRootChildren (id : CursorId) : (s.withRootChildren ids).member p id = s.member p id := by
  unfold member
  simp only [property_withRootChildren, method_withRootChildren, classReference_withRootChildren]
  exact cursor_bind_withRootChildren id fun _ => rfl

theorem interface_withRootChildren (c : CursorNode) : (s.withRootChildren ids).interface p c = s.interface p c := by
  have hmember : (s.withRootChildren ids).member p = s.member p := funext member_withRootChildren
  unfold interface
  rw [hmember]

variable {o : Options}

/-- A cursor that is not the root is the same finding in a piece and in the whole. -/
theorem finding_withRootChildren {id : CursorId} (h : s.root ≠ id) :
    (s.withRootChildren ids).finding o id = s.finding o id := by
  unfold finding
  rw [cursor_withRootChildren h]
  simp only [interface_withRootChildren]

/-! ## Catalogues -/

/-- The root is no child of itself. -/
theorem Sound.root_not_mem (hs : s.Sound) {root : CursorNode} (hroot : s.cursor s.root = .ok root) :
    s.root ∉ root.children := fun hmem =>
  hs.children_acyclic _ (.single ⟨root, cursor_eq_ok_iff.mp hroot, s.root, hmem, rfl⟩)

/-- The findings of a piece are those of its children in the whole. -/
theorem findings_withRootChildren (hs : s.Sound) {root : CursorNode} (hroot : s.cursor s.root = .ok root)
    (hsub : ids ⊆ root.children) {found : List Finding} (hfound : ids.mapM (s.finding o) = .ok found) :
    (s.withRootChildren ids).findings o = .ok found := by
  have hsame : ∀ id ∈ ids, (s.withRootChildren ids).finding o id = s.finding o id := fun id hid =>
    finding_withRootChildren fun heq => hs.root_not_mem hroot (heq ▸ hsub hid)
  have hchildren : (s.withRootChildren ids).cursor s.root = .ok (root.withChildren ids) := by
    rw [cursor_root_withRootChildren, hroot]
    rfl
  refine findings_eq_ok_iff.mpr ⟨_, hchildren, mapM_eq_ok_iff.mpr ?_⟩
  have hboth := (List.forall₂_and_left ids found).mpr ⟨hsame, mapM_eq_ok_iff.mp hfound⟩
  exact hboth.imp fun _ _ h => h.1.trans h.2

/-- Merging the catalogues of parts of the findings gives the catalogue of all of them. -/
theorem merge_ofFindings (o : Options) (parts : List (List Finding)) :
    Catalog.merge o (parts.map (Catalog.ofFindings o)) = Catalog.ofFindings o parts.flatten := by
  have hfound : foundInterfaces parts.flatten = (parts.map foundInterfaces).flatten := by
    unfold foundInterfaces
    rw [List.filterMap_flatten]
  have hall : Catalog.allInterfaces (parts.map (Catalog.ofFindings o)) =
      (parts.map foundInterfaces).flatMap Interface.firsts := by
    rw [Catalog.allInterfaces, List.flatMap_map, List.flatMap_map]
    rfl
  rw [Catalog.merge, hall, Interface.firsts_flatMap_firsts, ← hfound]
  rfl

/-- **A header may be cut into pieces.** However the children of the root are cut into chunks, each piece passes the
check, and the catalogue of the whole is that of all pieces merged. -/
theorem extract_split (hvalid : s.validate = .ok ()) : ∃ root, s.cursor s.root = .ok root ∧
    ∀ chunks : List (List CursorId), chunks.flatten = root.children → ∀ o,
      (∀ ids ∈ chunks, (s.withRootChildren ids).validate = .ok ()) ∧
        ∃ parts log, List.Forall₂ (fun ids part => ∃ log, (s.withRootChildren ids).extract o = .ok (part, log))
          chunks parts ∧ s.extract o = .ok (Catalog.merge o parts, log) := by
  have hs := sound_of_validate hvalid
  obtain ⟨root, hroot⟩ := exists_cursor hs.root
  refine ⟨root, hroot, fun chunks hchunks o => ?_⟩
  have hsub : ∀ ids ∈ chunks, ids ⊆ root.children := fun ids hids id hid =>
    hchunks ▸ List.mem_flatten_of_mem hids hid
  have hpieces : ∀ ids ∈ chunks, (s.withRootChildren ids).validate = .ok () := fun ids hids =>
    validate_of_sound (hs.withRootChildren hroot (hsub ids hids))
  obtain ⟨found, hfound, -⟩ := (Renaming.refl s).findings_agree hs hs o
  obtain ⟨root', hroot', hmapM⟩ := findings_eq_ok_iff.mp hfound
  obtain rfl : root = root' := eq_of_eq_ok hroot hroot'
  rw [← hchunks] at hmapM
  obtain ⟨parts, hparts, rfl⟩ := exists_parts_of_mapM hmapM
  have hwhole := extract_of_findings hvalid hfound
  rw [← merge_ofFindings] at hwhole
  refine ⟨hpieces, parts.map (Catalog.ofFindings o), _, ?_, hwhole⟩
  rw [List.forall₂_map_right_iff]
  have hboth := (List.forall₂_and_left chunks parts).mpr ⟨fun _ hids => hids, hparts⟩
  refine hboth.imp fun ids part ⟨hids, hpart⟩ => ?_
  have hfindings := findings_withRootChildren hs hroot (hsub ids hids) hpart
  exact ⟨_, extract_of_findings (hpieces ids hids) hfindings⟩

/-- Two equal classes are met in two pieces, with an empty one between them. -/
theorem Example.extract_twice_split : twice.validate = .ok () ∧ ∀ o, ∃ parts log,
    List.Forall₂ (fun ids part => ∃ log, (twice.withRootChildren ids).extract o = .ok (part, log))
      [[.ofNat 1], [], [.ofNat 2]] parts ∧ twice.extract o = .ok (Catalog.merge o parts, log) := by
  obtain ⟨root, hroot, hsplit⟩ := extract_split (s := twice) rfl
  cases hroot
  exact ⟨rfl, fun o => (hsplit [[.ofNat 1], [], [.ofNat 2]] rfl o).2⟩

end Snapshot

end HeaderCatalog
