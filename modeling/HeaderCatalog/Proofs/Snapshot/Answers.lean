import HeaderCatalog.Proofs.Graph.Height
import HeaderCatalog.Proofs.Snapshot.Soundness
import HeaderCatalog.Snapshot.Query

/-!
# Answers about nodes that exist

In a linked snapshot a node at a position that exists can be looked up, and all nodes that it answers with exist again
(`Linked.cursorAnswers`, `Linked.typeAnswers`). What is left out is answered by the node itself, so this also holds of
canonical forms and definitions. In a sound snapshot children and parts lie lower than what they belong to
(`Sound.childHeight_lt`, `Sound.partHeight_lt`), and no height reaches the number of nodes.
-/

namespace HeaderCatalog

/-- Every node that a cursor answers with exists; `own` is its own position. -/
structure CursorNode.AnswersIn (s : Snapshot) (own : CursorId) (c : CursorNode) : Prop where
  child : ∀ id ∈ c.children, s.hasCursor id
  argument : ∀ (i : Nat) (id : CursorId), c.arguments[i]? = some id → s.hasCursor id
  referenced : ∀ id, c.referenced? = some id → s.hasCursor id
  definedBy : ∀ id, c.definedBy? own = some id → s.hasCursor id
  type : ∀ id, c.type? = some id → s.hasType id
  resultType : ∀ id, c.resultType? = some id → s.hasType id

/-- Every node that a type answers with exists; `own` is its own position. -/
structure TypeNode.AnswersIn (s : Snapshot) (own : TypeId) (t : TypeNode) : Prop where
  canonical : s.hasType (t.canonical own)
  element : ∀ id, t.element? = some id → s.hasType id
  pointee : ∀ id, t.pointee? = some id → s.hasType id
  result : ∀ id, t.result? = some id → s.hasType id
  argument : ∀ (i : Nat) (id : TypeId), t.argument? i = some id → s.hasType id
  declaration : ∀ id, t.declaration? = some id → s.hasCursor id

/-- An argument is a part. -/
theorem TypeNode.hasPart_of_argument? {t : TypeNode} {i : Nat} {id : TypeId} (h : t.argument? i = some id) :
    t.HasPart id := by
  unfold TypeNode.argument? at h
  cases hids : t.arguments? with
  | none => rw [hids] at h; cases h
  | some ids => rw [hids] at h; exact .argument hids (List.mem_of_getElem? h)

namespace Snapshot

variable {s : Snapshot}

/-! ## Lookups -/

theorem cursor_eq_ok_iff {id : CursorId} {c : CursorNode} :
    s.cursor id = .ok c ↔ s.cursors[id.toNat]? = some c := by
  unfold cursor cursor?
  cases s.cursors[id.toNat]? <;> simp

theorem type_eq_ok_iff {id : TypeId} {t : TypeNode} : s.type id = .ok t ↔ s.types[id.toNat]? = some t := by
  unfold type type?
  cases s.types[id.toNat]? <;> simp

theorem exists_cursor {id : CursorId} (h : s.hasCursor id) : ∃ c, s.cursor id = .ok c :=
  ⟨_, cursor_eq_ok_iff.mpr (Array.getElem?_eq_getElem (of_decide_eq_true h))⟩

theorem exists_type {id : TypeId} (h : s.hasType id) : ∃ t, s.type id = .ok t :=
  ⟨_, type_eq_ok_iff.mpr (Array.getElem?_eq_getElem (of_decide_eq_true h))⟩

theorem hasCursor_of_cursor {id : CursorId} {c : CursorNode} (h : s.cursor id = .ok c) : s.hasCursor id :=
  decide_eq_true (Array.getElem?_eq_some_iff.mp (cursor_eq_ok_iff.mp h)).1

theorem hasType_of_type {id : TypeId} {t : TypeNode} (h : s.type id = .ok t) : s.hasType id :=
  decide_eq_true (Array.getElem?_eq_some_iff.mp (type_eq_ok_iff.mp h)).1

/-! ## Answers -/

/-- The nodes that a cursor of a linked snapshot answers with exist. -/
theorem Linked.cursorAnswers (h : s.Linked) {id : CursorId} {c : CursorNode} (hc : s.cursor id = .ok c) :
    c.AnswersIn s id := by
  have hlinked := h.cursors _ _ (cursor_eq_ok_iff.mp hc)
  refine ⟨hlinked.children, fun i a ha => hlinked.arguments a (List.mem_of_getElem? ha), hlinked.referenced,
    fun a ha => ?_, hlinked.type, hlinked.resultType⟩
  unfold CursorNode.definedBy? at ha
  cases hdefinition : c.definition? with
  | some d =>
    rw [hdefinition] at ha
    cases ha
    exact hlinked.definition _ hdefinition
  | none =>
    rw [hdefinition, Option.none_or] at ha
    split at ha
    · cases ha; exact hasCursor_of_cursor hc
    · cases ha

/-- The nodes that a type of a linked snapshot answers with exist. -/
theorem Linked.typeAnswers (h : s.Linked) {id : TypeId} {t : TypeNode} (ht : s.type id = .ok t) :
    t.AnswersIn s id := by
  have hlinked := h.types _ _ (type_eq_ok_iff.mp ht)
  refine ⟨?_, fun a ha => hlinked.parts a (.element ha), fun a ha => hlinked.parts a (.pointee ha),
    fun a ha => hlinked.parts a (.result ha), fun i a ha => hlinked.parts a (TypeNode.hasPart_of_argument? ha),
    hlinked.declaration⟩
  unfold TypeNode.canonical
  cases hcanonical : t.canonical? with
  | some d => exact hlinked.canonical d hcanonical
  | none => exact hasType_of_type ht

/-! ## Heights -/

/-- How many cursors a cursor reaches through children. -/
noncomputable def childHeight (s : Snapshot) (id : CursorId) : Nat :=
  Graph.height s.cursors.size s.HasChild id.toNat

/-- How many types a type is composed of. -/
noncomputable def partHeight (s : Snapshot) (id : TypeId) : Nat :=
  Graph.height s.types.size s.HasPart id.toNat

theorem Sound.childHeight_lt (h : s.Sound) {id child : CursorId} {c : CursorNode} (hc : s.cursor id = .ok c)
    (hchild : child ∈ c.children) : s.childHeight child < s.childHeight id := by
  have hedge : s.HasChild id.toNat child.toNat := ⟨c, cursor_eq_ok_iff.mp hc, child, hchild, rfl⟩
  exact Graph.height_lt h.children_acyclic hedge (h.child_lt hedge)

theorem Sound.partHeight_lt (h : s.Sound) {id part : TypeId} {t : TypeNode} (ht : s.type id = .ok t)
    (hpart : t.HasPart part) : s.partHeight part < s.partHeight id := by
  have hedge : s.HasPart id.toNat part.toNat := ⟨t, type_eq_ok_iff.mp ht, part, hpart, rfl⟩
  exact Graph.height_lt h.parts_acyclic hedge (h.part_lt hedge)

theorem Sound.childHeight_lt_size (h : s.Sound) {id : CursorId} (hid : s.hasCursor id) :
    s.childHeight id < s.cursors.size :=
  Graph.height_lt_size h.children_acyclic (of_decide_eq_true hid)

theorem Sound.partHeight_lt_size (h : s.Sound) {id : TypeId} (hid : s.hasType id) :
    s.partHeight id < s.types.size :=
  Graph.height_lt_size h.parts_acyclic (of_decide_eq_true hid)

end Snapshot

end HeaderCatalog
