import HeaderCatalog.Proofs.Graph.Colouring
import HeaderCatalog.Snapshot.Validity

/-!
# What a sound snapshot is

A snapshot is *linked* (`Snapshot.Linked`) when its root and all positions named in its nodes exist, in nodes that
the root does not reach no less than in others. It is *sound* (`Snapshot.Sound`) when moreover no cursor reaches
itself through children (`HasChild`) and no type through the types it is composed of (`HasPart`). Canonical forms,
arguments, references and definitions may run in circles, and children and parts may be shared.

`validate_spec`: the check either passes, and the snapshot is sound, or names a defect, and it is not.
-/

namespace HeaderCatalog

open Relation

/-! ## Linked and sound snapshots -/

/-- Every position that a cursor names exists. -/
structure CursorNode.Linked (s : Snapshot) (c : CursorNode) : Prop where
  children : ∀ id ∈ c.children, s.hasCursor id
  arguments : ∀ id ∈ c.arguments, s.hasCursor id
  referenced : ∀ id, c.referenced? = some id → s.hasCursor id
  definition : ∀ id, c.definition? = some id → s.hasCursor id
  type : ∀ id, c.type? = some id → s.hasType id
  resultType : ∀ id, c.resultType? = some id → s.hasType id

/-- A type is composed of another: of its element, its pointee, its result, its arguments. -/
inductive TypeNode.HasPart (t : TypeNode) (id : TypeId) : Prop
  | element : t.element? = some id → HasPart t id
  | pointee : t.pointee? = some id → HasPart t id
  | result : t.result? = some id → HasPart t id
  | argument {ids : List TypeId} : t.arguments? = some ids → id ∈ ids → HasPart t id

/-- Every position that a type names exists. -/
structure TypeNode.Linked (s : Snapshot) (t : TypeNode) : Prop where
  canonical : ∀ id, t.canonical? = some id → s.hasType id
  parts : ∀ id, t.HasPart id → s.hasType id
  declaration : ∀ id, t.declaration? = some id → s.hasCursor id

namespace Snapshot

/-- The cursor at one place has the one at another among its children. -/
def HasChild (s : Snapshot) (i j : Nat) : Prop :=
  ∃ c, s.cursors[i]? = some c ∧ ∃ id ∈ c.children, id.toNat = j

/-- The type at one place is composed of the one at another. -/
def HasPart (s : Snapshot) (i j : Nat) : Prop :=
  ∃ t, s.types[i]? = some t ∧ ∃ id, t.HasPart id ∧ id.toNat = j

/-- Every position in a snapshot exists. -/
structure Linked (s : Snapshot) : Prop where
  root : s.hasCursor s.root
  cursors : ∀ (i : Nat) (c : CursorNode), s.cursors[i]? = some c → c.Linked s
  types : ∀ (i : Nat) (t : TypeNode), s.types[i]? = some t → t.Linked s

/-- Every position exists, no cursor reaches itself through children, and no type through its parts. -/
structure Sound (s : Snapshot) : Prop extends s.Linked where
  children_acyclic : ∀ i, ¬TransGen s.HasChild i i
  parts_acyclic : ∀ i, ¬TransGen s.HasPart i i

/-! ## Links that lead nowhere -/

variable {s : Snapshot}

theorem mem_parts_iff {t : TypeNode} {id : TypeId} : id ∈ t.parts ↔ t.HasPart id := by
  simp only [TypeNode.parts, List.mem_append, Option.mem_toList]
  constructor
  · rintro (((h | h) | h) | h)
    · exact .element h
    · exact .pointee h
    · exact .result h
    · cases hids : t.arguments? with
      | none => rw [hids] at h; cases h
      | some ids => rw [hids] at h; exact .argument hids h
  · rintro (h | h | h | ⟨hids, h⟩)
    · exact Or.inl (Or.inl (Or.inl h))
    · exact Or.inl (Or.inl (Or.inr h))
    · exact Or.inl (Or.inr h)
    · exact Or.inr (by rw [hids]; exact h)

theorem danglingCursor?_eq_none_iff {holder : Holder} {links : List (Link × CursorId)} :
    s.danglingCursor? holder links = none ↔ ∀ l ∈ links, s.hasCursor l.2 := by
  simp [danglingCursor?, List.find?_eq_none]

theorem danglingType?_eq_none_iff {holder : Holder} {links : List (Link × TypeId)} :
    s.danglingType? holder links = none ↔ ∀ l ∈ links, s.hasType l.2 := by
  simp [danglingType?, List.find?_eq_none]

theorem cursorDefect?_eq_none_iff {c : CursorNode} {i : Nat} : s.cursorDefect? c i = none ↔ c.Linked s := by
  rw [cursorDefect?, Option.or_eq_none_iff, danglingCursor?_eq_none_iff, danglingType?_eq_none_iff]
  simp only [CursorNode.cursorLinks, CursorNode.typeLinks, List.forall_mem_append, List.forall_mem_map,
    Option.mem_toList]
  constructor
  · rintro ⟨⟨⟨⟨hchildren, harguments⟩, hreferenced⟩, hdefinition⟩, htype, hresult⟩
    exact ⟨hchildren, harguments, hreferenced, hdefinition, htype, hresult⟩
  · rintro ⟨hchildren, harguments, hreferenced, hdefinition, htype, hresult⟩
    exact ⟨⟨⟨⟨hchildren, harguments⟩, hreferenced⟩, hdefinition⟩, htype, hresult⟩

theorem typeDefect?_eq_none_iff {t : TypeNode} {i : Nat} : s.typeDefect? t i = none ↔ t.Linked s := by
  rw [typeDefect?, Option.or_eq_none_iff, danglingCursor?_eq_none_iff, danglingType?_eq_none_iff]
  simp only [TypeNode.typeLinks, List.forall_mem_append, List.forall_mem_map, Option.mem_toList, mem_parts_iff]
  constructor
  · rintro ⟨⟨hcanonical, hparts⟩, hdeclaration⟩
    exact ⟨hcanonical, hparts, hdeclaration⟩
  · rintro ⟨hcanonical, hparts, hdeclaration⟩
    exact ⟨⟨hcanonical, hparts⟩, hdeclaration⟩

/-- A look at each node of an arena finds nothing exactly when there is nothing at any of its places. -/
theorem findSome?_zipIdx_eq_none_iff {α β : Type} {nodes : Array α} {f : α → Nat → Option β} :
    (nodes.toList.zipIdx.findSome? fun (a, i) => f a i) = none ↔
      ∀ (i : Nat) (a : α), nodes[i]? = some a → f a i = none := by
  rw [List.findSome?_eq_none_iff]
  constructor
  · intro h i a ha
    exact h (a, i) (List.mem_zipIdx_iff_getElem?.mpr (by rw [Array.getElem?_toList]; exact ha))
  · rintro h ⟨a, i⟩ hmem
    have ha := List.mem_zipIdx_iff_getElem?.mp hmem
    rw [Array.getElem?_toList] at ha
    exact h i a ha

/-- No link leads nowhere exactly in linked snapshots. -/
theorem dangling?_eq_none_iff : s.dangling? = none ↔ s.Linked := by
  rw [dangling?, Option.or_eq_none_iff, Option.or_eq_none_iff, findSome?_zipIdx_eq_none_iff,
    findSome?_zipIdx_eq_none_iff]
  simp only [cursorDefect?_eq_none_iff, typeDefect?_eq_none_iff]
  constructor
  · rintro ⟨hroot, hcursors, htypes⟩
    refine ⟨?_, hcursors, htypes⟩
    by_contra h
    rw [if_neg h] at hroot
    cases hroot
  · rintro ⟨hroot, hcursors, htypes⟩
    exact ⟨if_pos hroot, hcursors, htypes⟩

/-! ## Circles -/

theorem edge_childEdges_iff {i j : Nat} : Graph.Edge s.cursors.size s.childEdges i j ↔ s.HasChild i j := by
  unfold Graph.Edge childEdges HasChild
  constructor
  · rintro ⟨hi, hj⟩
    rw [Array.getElem?_eq_getElem hi] at hj ⊢
    obtain ⟨id, hid, rfl⟩ := List.mem_map.mp hj
    exact ⟨_, rfl, id, hid, rfl⟩
  · rintro ⟨c, hc, id, hid, rfl⟩
    rw [hc]
    exact ⟨(Array.getElem?_eq_some_iff.mp hc).1, List.mem_map.mpr ⟨id, hid, rfl⟩⟩

theorem edge_partEdges_iff {i j : Nat} : Graph.Edge s.types.size s.partEdges i j ↔ s.HasPart i j := by
  unfold Graph.Edge partEdges HasPart
  constructor
  · rintro ⟨hi, hj⟩
    rw [Array.getElem?_eq_getElem hi] at hj ⊢
    obtain ⟨id, hid, rfl⟩ := List.mem_map.mp hj
    exact ⟨_, rfl, id, mem_parts_iff.mp hid, rfl⟩
  · rintro ⟨t, ht, id, hid, rfl⟩
    rw [ht]
    exact ⟨(Array.getElem?_eq_some_iff.mp ht).1, List.mem_map.mpr ⟨id, mem_parts_iff.mpr hid, rfl⟩⟩

/-- A child of a linked snapshot is a cursor. -/
theorem Linked.child_lt (h : s.Linked) {i j : Nat} (hij : s.HasChild i j) : j < s.cursors.size := by
  obtain ⟨c, hc, id, hid, rfl⟩ := hij
  exact of_decide_eq_true ((h.cursors i c hc).children id hid)

/-- A part of a linked snapshot is a type. -/
theorem Linked.part_lt (h : s.Linked) {i j : Nat} (hij : s.HasPart i j) : j < s.types.size := by
  obtain ⟨t, ht, id, hid, rfl⟩ := hij
  exact of_decide_eq_true ((h.types i t ht).parts id hid)

/-- The search among children passes if there is no circle, and otherwise names a cursor on one. -/
theorem checkChildren_spec (h : s.Linked) :
    (s.checkChildren = .ok () ∧ ∀ i, ¬TransGen s.HasChild i i) ∨
      ∃ i < s.cursors.size, s.checkChildren = .error (.defect (.childCycle (.ofNat i))) ∧
        TransGen s.HasChild i i := by
  have hedge : Graph.Edge s.cursors.size s.childEdges = s.HasChild := by
    funext i j; exact propext edge_childEdges_iff
  have hrange : Graph.InRange s.cursors.size s.childEdges := fun i hi j hj =>
    h.child_lt (edge_childEdges_iff.mp ⟨hi, hj⟩)
  unfold checkChildren
  rcases Graph.findCycle_spec hrange with ⟨hanswer, hnone⟩ | ⟨i, hi, hanswer, hcycle⟩
  · rw [hanswer]
    exact Or.inl ⟨rfl, hedge ▸ hnone⟩
  · rw [hanswer]
    exact Or.inr ⟨i, hi, rfl, hedge ▸ hcycle⟩

/-- The search among parts passes if there is no circle, and otherwise names a type on one. -/
theorem checkParts_spec (h : s.Linked) :
    (s.checkParts = .ok () ∧ ∀ i, ¬TransGen s.HasPart i i) ∨
      ∃ i < s.types.size, s.checkParts = .error (.defect (.typeCycle (.ofNat i))) ∧ TransGen s.HasPart i i := by
  have hedge : Graph.Edge s.types.size s.partEdges = s.HasPart := by
    funext i j; exact propext edge_partEdges_iff
  have hrange : Graph.InRange s.types.size s.partEdges := fun i hi j hj =>
    h.part_lt (edge_partEdges_iff.mp ⟨hi, hj⟩)
  unfold checkParts
  rcases Graph.findCycle_spec hrange with ⟨hanswer, hnone⟩ | ⟨i, hi, hanswer, hcycle⟩
  · rw [hanswer]
    exact Or.inl ⟨rfl, hedge ▸ hnone⟩
  · rw [hanswer]
    exact Or.inr ⟨i, hi, rfl, hedge ▸ hcycle⟩

/-! ## The check -/

/-- The check of a linked snapshot is the search among children, then among parts. -/
theorem validate_of_linked (h : s.Linked) : s.validate = (do s.checkChildren; s.checkParts) := by
  rw [validate, dangling?_eq_none_iff.mpr h]

/-- The check passes, and the snapshot is sound, or it names a defect, and the snapshot is not. -/
theorem validate_spec (s : Snapshot) :
    (s.validate = .ok () ∧ s.Sound) ∨ ∃ d, s.validate = .error (.defect d) ∧ ¬s.Sound := by
  cases hdangling : s.dangling? with
  | some d =>
    refine Or.inr ⟨d, by rw [validate, hdangling], fun hsound => ?_⟩
    rw [dangling?_eq_none_iff.mpr hsound.toLinked] at hdangling
    cases hdangling
  | none =>
    have hlinked := dangling?_eq_none_iff.mp hdangling
    rw [validate_of_linked hlinked]
    rcases checkChildren_spec hlinked with ⟨hok, hchildren⟩ | ⟨i, -, herror, hcycle⟩
    · rw [hok]
      rcases checkParts_spec hlinked with ⟨hok, hparts⟩ | ⟨i, -, herror, hcycle⟩
      · exact Or.inl ⟨hok, hlinked, hchildren, hparts⟩
      · exact Or.inr ⟨_, herror, fun hsound => hsound.parts_acyclic i hcycle⟩
    · rw [herror]
      exact Or.inr ⟨_, rfl, fun hsound => hsound.children_acyclic i hcycle⟩

/-- A snapshot that passes the check is sound. -/
theorem sound_of_validate (h : s.validate = .ok ()) : s.Sound := by
  rcases validate_spec s with ⟨-, hsound⟩ | ⟨d, herror, -⟩
  · exact hsound
  · rw [herror] at h; cases h

/-- A sound snapshot passes the check. -/
theorem validate_of_sound (h : s.Sound) : s.validate = .ok () := by
  rcases validate_spec s with ⟨hok, -⟩ | ⟨d, -, hunsound⟩
  · exact hok
  · exact absurd h hunsound

/-- A snapshot that does not pass the check has a defect. -/
theorem defect_of_validate {e : Failure} (h : s.validate = .error e) : ∃ d, e = .defect d := by
  rcases validate_spec s with ⟨hok, -⟩ | ⟨d, herror, -⟩
  · rw [hok] at h; cases h
  · rw [herror] at h; cases h; exact ⟨d, rfl⟩

/-- **The check passes exactly the sound snapshots.** -/
theorem validate_eq_ok_iff (s : Snapshot) : s.validate = .ok () ↔ s.Sound := by
  refine ⟨sound_of_validate, fun hsound => ?_⟩
  rcases validate_spec s with ⟨hok, -⟩ | ⟨d, -, hunsound⟩
  · exact hok
  · exact absurd hsound hunsound

/-- Canonical forms and references may lead in a circle, and a child may be met twice. -/
example : validate {
    root := .ofNat 0
    cursors := #[
      { CursorNode.blank .translationUnit "" with children := [.ofNat 1, .ofNat 1], referenced? := some (.ofNat 0) },
      { CursorNode.blank .enumDeclaration "e" with definition? := some (.ofNat 0), arguments := [.ofNat 1] }]
    types := #[
      { TypeNode.blank "a" "Enum" with canonical? := some (.ofNat 1) },
      { TypeNode.blank "b" "Enum" with canonical? := some (.ofNat 0) }] } = .ok () := rfl

end Snapshot

end HeaderCatalog
