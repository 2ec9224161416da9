import HeaderCatalog.Proofs.Graph.Growing
import HeaderCatalog.Proofs.Snapshot.Soundness

/-!
# One step of building a snapshot

A snapshot is built step by step: a cursor or a type is put behind the ones that are there (`CursorPushed`,
`TypePushed`), or a cursor gets one more child (`ChildAdded`). Whether a sound snapshot stays sound can be told from the
step and the snapshot before it (`CursorNode.Fits`, `TypeNode.Fits`, `ChildFits`). A new node may name itself and the
ones before it; only children and parts must be older, since a circle through a new node is one from it to itself. A
new child must be there and must not have the parent below it.
-/

namespace HeaderCatalog

open Relation

/-! ## What fits -/

/-- A cursor that may come behind the ones that are there. -/
structure CursorNode.Fits (s : Snapshot) (c : CursorNode) : Prop where
  children : ∀ id ∈ c.children, id.toNat < s.cursors.size
  arguments : ∀ id ∈ c.arguments, id.toNat ≤ s.cursors.size
  referenced : ∀ id, c.referenced? = some id → id.toNat ≤ s.cursors.size
  definition : ∀ id, c.definition? = some id → id.toNat ≤ s.cursors.size
  type : ∀ id, c.type? = some id → id.toNat < s.types.size
  resultType : ∀ id, c.resultType? = some id → id.toNat < s.types.size

/-- A type that may come behind the ones that are there. -/
structure TypeNode.Fits (s : Snapshot) (t : TypeNode) : Prop where
  canonical : ∀ id, t.canonical? = some id → id.toNat ≤ s.types.size
  parts : ∀ id, t.HasPart id → id.toNat < s.types.size
  declaration : ∀ id, t.declaration? = some id → id.toNat < s.cursors.size

namespace Snapshot

variable {s t : Snapshot}

/-- A child that a cursor may get: one that is there and from which no chain of children leads to the parent. -/
def ChildFits (s : Snapshot) (parent child : CursorId) : Prop :=
  child.toNat < s.cursors.size ∧ ¬ReflTransGen s.HasChild child.toNat parent.toNat

/-! ## What changes -/

/-- A node was put behind those of an arena, which all stay as they are. -/
structure Pushed {α : Type} (old : Array α) (node : α) (new : Array α) : Prop where
  size : new.size = old.size + 1
  last : new[old.size]? = some node
  others : ∀ i < old.size, new[i]? = old[i]?

/-- A cursor was put behind all others; all else is as before. -/
structure CursorPushed (s : Snapshot) (node : CursorNode) (t : Snapshot) : Prop where
  cursors : Pushed s.cursors node t.cursors
  types : t.types = s.types
  root : t.root = s.root

/-- A type was put behind all others; all else is as before. -/
structure TypePushed (s : Snapshot) (node : TypeNode) (t : Snapshot) : Prop where
  types : Pushed s.types node t.types
  cursors : t.cursors = s.cursors
  root : t.root = s.root

/-- A cursor got one more child, behind those that it had; all else is as before. -/
structure ChildAdded (s : Snapshot) (parent child : CursorId) (t : Snapshot) : Prop where
  added : ∃ node, s.cursors[parent.toNat]? = some node ∧
    t.cursors[parent.toNat]? = some { node with children := node.children ++ [child] }
  others : ∀ i, i ≠ parent.toNat → t.cursors[i]? = s.cursors[i]?
  size : t.cursors.size = s.cursors.size
  types : t.types = s.types
  root : t.root = s.root

theorem pushed_push {α : Type} (nodes : Array α) (node : α) : Pushed nodes node (nodes.push node) where
  size := Array.size_push node
  last := Array.getElem?_push_size
  others i hi := by
    rw [Array.getElem?_push, if_neg (Nat.ne_of_lt hi)]

theorem cursorPushed (s : Snapshot) (node : CursorNode) : CursorPushed s node (s.pushCursor node).2 where
  cursors := pushed_push s.cursors node
  types := rfl
  root := rfl

theorem typePushed (s : Snapshot) (node : TypeNode) : TypePushed s node (s.pushType node).2 where
  types := pushed_push s.types node
  cursors := rfl
  root := rfl

/-- A cursor that is there takes any child. -/
theorem exists_addChild? (parent child : CursorId) (h : s.hasCursor parent) :
    ∃ t, s.addChild? parent child = some t := by
  have hlt : parent.toNat < s.cursors.size := of_decide_eq_true h
  simp only [addChild?, cursor?, Array.getElem?_eq_getElem hlt, Option.bind_eq_bind, Option.bind_some, setCursor?,
    dif_pos hlt]
  exact ⟨_, rfl⟩

theorem childAdded {parent child : CursorId} (h : s.addChild? parent child = some t) :
    ChildAdded s parent child t := by
  simp only [addChild?, Option.bind_eq_bind, Option.bind_eq_some_iff, cursor?, setCursor?] at h
  obtain ⟨node, hnode, h⟩ := h
  split at h
  · rename_i hlt
    cases h
    refine ⟨⟨node, hnode, ?_⟩, fun i hi => ?_, Array.size_set hlt, rfl, rfl⟩
    · exact Array.getElem?_set_self hlt
    · exact Array.getElem?_set_ne hlt hi.symm
  · cases h

/-! ## More nodes -/

/-- The other nodes of an arena are the old ones. -/
theorem Pushed.getElem?_of_ne {α : Type} {old new : Array α} {node : α} (h : Pushed old node new) {i : Nat}
    (hi : i ≠ old.size) : new[i]? = old[i]? := by
  by_cases hlt : i < old.size
  · exact h.others i hlt
  · have hsize := h.size
    rw [Array.getElem?_eq_none (by omega), Array.getElem?_eq_none (by omega)]

/-- The nodes of an arena are the old ones and the one put behind them. -/
theorem Pushed.getElem?_iff {α : Type} {old new : Array α} {node a : α} (h : Pushed old node new) {i : Nat} :
    new[i]? = some a ↔ old[i]? = some a ∨ (i = old.size ∧ a = node) := by
  by_cases hi : i = old.size
  · subst hi
    rw [h.last, Array.getElem?_eq_none (Nat.le_refl _), Option.some_inj]
    constructor
    · exact fun ha => Or.inr ⟨rfl, ha.symm⟩
    · rintro (ha | ⟨-, rfl⟩)
      · cases ha
      · rfl
  · simp only [h.getElem?_of_ne hi, hi, false_and, or_false]

theorem hasCursor_of_le (hle : s.cursors.size ≤ t.cursors.size) {id : CursorId} (h : s.hasCursor id) :
    t.hasCursor id :=
  decide_eq_true (Nat.lt_of_lt_of_le (of_decide_eq_true h) hle)

theorem hasType_of_le (hle : s.types.size ≤ t.types.size) {id : TypeId} (h : s.hasType id) : t.hasType id :=
  decide_eq_true (Nat.lt_of_lt_of_le (of_decide_eq_true h) hle)

/-- What a cursor names is there also among more nodes. -/
theorem linked_of_le {c : CursorNode} (hcursors : s.cursors.size ≤ t.cursors.size)
    (htypes : s.types.size ≤ t.types.size) (h : c.Linked s) : c.Linked t := by
  constructor
  · exact fun id hid => hasCursor_of_le hcursors (h.children id hid)
  · exact fun id hid => hasCursor_of_le hcursors (h.arguments id hid)
  · exact fun id hid => hasCursor_of_le hcursors (h.referenced id hid)
  · exact fun id hid => hasCursor_of_le hcursors (h.definition id hid)
  · exact fun id hid => hasType_of_le htypes (h.type id hid)
  · exact fun id hid => hasType_of_le htypes (h.resultType id hid)

/-- What a type names is there also among more nodes. -/
theorem type_linked_of_le {n : TypeNode} (hcursors : s.cursors.size ≤ t.cursors.size)
    (htypes : s.types.size ≤ t.types.size) (h : n.Linked s) : n.Linked t := by
  constructor
  · exact fun id hid => hasType_of_le htypes (h.canonical id hid)
  · exact fun id hid => hasType_of_le htypes (h.parts id hid)
  · exact fun id hid => hasCursor_of_le hcursors (h.declaration id hid)

/-! ## One more cursor -/

section PushedCursor

variable {node : CursorNode}

/-- The new cursor has the children that its node lists; all others have those that they had. -/
theorem CursorPushed.hasChild_iff (h : CursorPushed s node t) {i j : Nat} :
    t.HasChild i j ↔ s.HasChild i j ∨ (i = s.cursors.size ∧ ∃ id ∈ node.children, id.toNat = j) := by
  simp only [HasChild, h.cursors.getElem?_iff]
  constructor
  · rintro ⟨c, hc | ⟨rfl, rfl⟩, hchild⟩
    · exact Or.inl ⟨c, hc, hchild⟩
    · exact Or.inr ⟨rfl, hchild⟩
  · rintro (⟨c, hc, hchild⟩ | ⟨rfl, hchild⟩)
    · exact ⟨c, Or.inl hc, hchild⟩
    · exact ⟨node, Or.inr ⟨rfl, rfl⟩, hchild⟩

theorem CursorPushed.hasCursor_iff (h : CursorPushed s node t) (id : CursorId) :
    t.hasCursor id ↔ id.toNat ≤ s.cursors.size := by
  rw [hasCursor, decide_eq_true_iff, h.cursors.size, Nat.lt_succ_iff]

theorem CursorPushed.hasType_iff (h : CursorPushed s node t) (id : TypeId) :
    t.hasType id ↔ id.toNat < s.types.size := by
  rw [hasType, decide_eq_true_iff, h.types]

/-- In a sound snapshot the new cursor names older nodes, or itself where that makes no circle. -/
theorem CursorPushed.fits_of_sound (h : CursorPushed s node t) (ht : t.Sound) : node.Fits s := by
  have hlinked : node.Linked t := ht.cursors _ _ h.cursors.last
  constructor
  · intro id hid
    have hle := (h.hasCursor_iff id).mp (hlinked.children id hid)
    have hne : id.toNat ≠ s.cursors.size := fun heq =>
      ht.children_acyclic s.cursors.size (.single (h.hasChild_iff.mpr (Or.inr ⟨rfl, id, hid, heq⟩)))
    omega
  · exact fun id hid => (h.hasCursor_iff id).mp (hlinked.arguments id hid)
  · exact fun id hid => (h.hasCursor_iff id).mp (hlinked.referenced id hid)
  · exact fun id hid => (h.hasCursor_iff id).mp (hlinked.definition id hid)
  · exact fun id hid => (h.hasType_iff id).mp (hlinked.type id hid)
  · exact fun id hid => (h.hasType_iff id).mp (hlinked.resultType id hid)

/-- All that a cursor that fits names is there once it is. -/
theorem CursorPushed.linked_of_fits (h : CursorPushed s node t) (hfits : node.Fits s) : node.Linked t := by
  constructor
  · exact fun id hid => (h.hasCursor_iff id).mpr (Nat.le_of_lt (hfits.children id hid))
  · exact fun id hid => (h.hasCursor_iff id).mpr (hfits.arguments id hid)
  · exact fun id hid => (h.hasCursor_iff id).mpr (hfits.referenced id hid)
  · exact fun id hid => (h.hasCursor_iff id).mpr (hfits.definition id hid)
  · exact fun id hid => (h.hasType_iff id).mpr (hfits.type id hid)
  · exact fun id hid => (h.hasType_iff id).mpr (hfits.resultType id hid)

/-- A cursor that fits keeps a snapshot sound: no cursor has it as a child. -/
theorem CursorPushed.sound_of_fits (h : CursorPushed s node t) (hs : s.Sound) (hfits : node.Fits s) :
    t.Sound := by
  have hcursors : s.cursors.size ≤ t.cursors.size := by rw [h.cursors.size]; omega
  have htypes : s.types.size ≤ t.types.size := by rw [h.types]
  refine { root := ?_, cursors := ?_, types := ?_, children_acyclic := ?_, parts_acyclic := ?_ }
  · rw [h.root, h.hasCursor_iff]
    exact Nat.le_of_lt (of_decide_eq_true hs.root)
  · intro i c hc
    rcases h.cursors.getElem?_iff.mp hc with hold | ⟨rfl, rfl⟩
    · exact linked_of_le hcursors htypes (hs.cursors i c hold)
    · exact h.linked_of_fits hfits
  · intro i n hn
    rw [h.types] at hn
    exact type_linked_of_le hcursors htypes (hs.types i n hn)
  · refine Graph.acyclic_of_fresh (n := s.cursors.size) (fun i j hij => ?_) hs.children_acyclic
    rcases h.hasChild_iff.mp hij with hold | ⟨rfl, id, hid, rfl⟩
    · exact ⟨Nat.ne_of_lt (hs.child_lt hold), fun _ => hold⟩
    · exact ⟨Nat.ne_of_lt (hfits.children id hid), fun hne => absurd rfl hne⟩
  · have hparts : t.HasPart = s.HasPart := by
      funext i j
      simp only [HasPart, h.types]
    rw [hparts]
    exact hs.parts_acyclic

end PushedCursor

/-! ## One more type -/

section PushedType

variable {node : TypeNode}

/-- The new type has the parts that its node lists; all others have those that they had. -/
theorem TypePushed.hasPart_iff (h : TypePushed s node t) {i j : Nat} :
    t.HasPart i j ↔ s.HasPart i j ∨ (i = s.types.size ∧ ∃ id, node.HasPart id ∧ id.toNat = j) := by
  simp only [HasPart, h.types.getElem?_iff]
  constructor
  · rintro ⟨n, hn | ⟨rfl, rfl⟩, hpart⟩
    · exact Or.inl ⟨n, hn, hpart⟩
    · exact Or.inr ⟨rfl, hpart⟩
  · rintro (⟨n, hn, hpart⟩ | ⟨rfl, hpart⟩)
    · exact ⟨n, Or.inl hn, hpart⟩
    · exact ⟨node, Or.inr ⟨rfl, rfl⟩, hpart⟩

theorem TypePushed.hasCursor_iff (h : TypePushed s node t) (id : CursorId) :
    t.hasCursor id ↔ id.toNat < s.cursors.size := by
  rw [hasCursor, decide_eq_true_iff, h.cursors]

theorem TypePushed.hasType_iff (h : TypePushed s node t) (id : TypeId) :
    t.hasType id ↔ id.toNat ≤ s.types.size := by
  rw [hasType, decide_eq_true_iff, h.types.size, Nat.lt_succ_iff]

/-- In a sound snapshot the new type names older nodes, or itself as its canonical form. -/
theorem TypePushed.fits_of_sound (h : TypePushed s node t) (ht : t.Sound) : node.Fits s := by
  have hlinked : node.Linked t := ht.types _ _ h.types.last
  constructor
  · exact fun id hid => (h.hasType_iff id).mp (hlinked.canonical id hid)
  · intro id hid
    have hle := (h.hasType_iff id).mp (hlinked.parts id hid)
    have hne : id.toNat ≠ s.types.size := fun heq =>
      ht.parts_acyclic s.types.size (.single (h.hasPart_iff.mpr (Or.inr ⟨rfl, id, hid, heq⟩)))
    omega
  · exact fun id hid => (h.hasCursor_iff id).mp (hlinked.declaration id hid)

/-- All that a type that fits names is there once it is. -/
theorem TypePushed.linked_of_fits (h : TypePushed s node t) (hfits : node.Fits s) : node.Linked t := by
  constructor
  · exact fun id hid => (h.hasType_iff id).mpr (hfits.canonical id hid)
  · exact fun id hid => (h.hasType_iff id).mpr (Nat.le_of_lt (hfits.parts id hid))
  · exact fun id hid => (h.hasCursor_iff id).mpr (hfits.declaration id hid)

/-- A type that fits keeps a snapshot sound: no type has it as a part. -/
theorem TypePushed.sound_of_fits (h : TypePushed s node t) (hs : s.Sound) (hfits : node.Fits s) :
    t.Sound := by
  have hcursors : s.cursors.size ≤ t.cursors.size := by rw [h.cursors]
  have htypes : s.types.size ≤ t.types.size := by rw [h.types.size]; omega
  refine { root := ?_, cursors := ?_, types := ?_, children_acyclic := ?_, parts_acyclic := ?_ }
  · rw [h.root, h.hasCursor_iff]
    exact of_decide_eq_true hs.root
  · intro i c hc
    rw [h.cursors] at hc
    exact linked_of_le hcursors htypes (hs.cursors i c hc)
  · intro i n hn
    rcases h.types.getElem?_iff.mp hn with hold | ⟨rfl, rfl⟩
    · exact type_linked_of_le hcursors htypes (hs.types i n hold)
    · exact h.linked_of_fits hfits
  · have hchildren : t.HasChild = s.HasChild := by
      funext i j
      simp only [HasChild, h.cursors]
    rw [hchildren]
    exact hs.children_acyclic
  · refine Graph.acyclic_of_fresh (n := s.types.size) (fun i j hij => ?_) hs.parts_acyclic
    rcases h.hasPart_iff.mp hij with hold | ⟨rfl, id, hid, rfl⟩
    · exact ⟨Nat.ne_of_lt (hs.part_lt hold), fun _ => hold⟩
    · exact ⟨Nat.ne_of_lt (hfits.parts id hid), fun hne => absurd rfl hne⟩

end PushedType

/-! ## One more child -/

section AddedChild

variable {parent child : CursorId}

/-- There is one more edge among the cursors. -/
theorem ChildAdded.hasChild_iff (h : ChildAdded s parent child t) {i j : Nat} :
    t.HasChild i j ↔ s.HasChild i j ∨ (i = parent.toNat ∧ j = child.toNat) := by
  obtain ⟨node, hold, hnew⟩ := h.added
  by_cases hi : i = parent.toNat
  · subst hi
    simp only [HasChild, hold, hnew, Option.some_inj, exists_eq_left', List.mem_append, List.mem_singleton,
      true_and]
    constructor
    · rintro ⟨id, hid | rfl, rfl⟩
      · exact Or.inl ⟨id, hid, rfl⟩
      · exact Or.inr rfl
    · rintro (⟨id, hid, rfl⟩ | rfl)
      · exact ⟨id, Or.inl hid, rfl⟩
      · exact ⟨child, Or.inr rfl, rfl⟩
  · simp only [HasChild, h.others i hi, hi, false_and, or_false]

/-- Added to a sound snapshot, a child keeps all links in place exactly if it is there. -/
theorem ChildAdded.linked_iff (h : ChildAdded s parent child t) (hs : s.Linked) :
    t.Linked ↔ child.toNat < s.cursors.size := by
  obtain ⟨node, hold, hnew⟩ := h.added
  have hcursors : s.cursors.size = t.cursors.size := h.size.symm
  have htypes : s.types.size = t.types.size := by rw [h.types]
  constructor
  · intro ht
    rw [hcursors]
    exact of_decide_eq_true ((ht.cursors _ _ hnew).children child (List.mem_concat_self ..))
  · intro hchild
    refine { root := ?_, cursors := fun i c hc => ?_, types := fun i n hn => ?_ }
    · rw [h.root, hasCursor, h.size]
      exact hs.root
    · by_cases hi : i = parent.toNat
      · -- the parent names what it named, and the child
        subst hi
        rw [hnew, Option.some_inj] at hc
        subst hc
        have hnode : node.Linked t := linked_of_le (Nat.le_of_eq hcursors) (Nat.le_of_eq htypes) (hs.cursors _ _ hold)
        refine { hnode with children := fun id hid => ?_ }
        rcases List.mem_append.mp hid with hid | hid
        · exact hnode.children id hid
        · rw [List.mem_singleton.mp hid, hasCursor, h.size]
          exact decide_eq_true hchild
      · rw [h.others i hi] at hc
        exact linked_of_le (Nat.le_of_eq hcursors) (Nat.le_of_eq htypes) (hs.cursors i c hc)
    · rw [h.types] at hn
      exact type_linked_of_le (Nat.le_of_eq hcursors) (Nat.le_of_eq htypes) (hs.types i n hn)

/-- Added to a sound snapshot, a child keeps it sound exactly if it fits. -/
theorem ChildAdded.sound_iff (h : ChildAdded s parent child t) (hs : s.Sound) :
    t.Sound ↔ s.ChildFits parent child := by
  have hacyclic : (∀ i, ¬TransGen t.HasChild i i) ↔ ¬ReflTransGen s.HasChild child.toNat parent.toNat :=
    Graph.acyclic_joined_iff (fun i j => h.hasChild_iff) hs.children_acyclic
  constructor
  · intro ht
    exact ⟨(h.linked_iff hs.toLinked).mp ht.toLinked, hacyclic.mp ht.children_acyclic⟩
  · rintro ⟨hchild, hback⟩
    refine ⟨(h.linked_iff hs.toLinked).mpr hchild, hacyclic.mpr hback, ?_⟩
    have hparts : t.HasPart = s.HasPart := by
      funext i j
      simp only [HasPart, h.types]
    rw [hparts]
    exact hs.parts_acyclic

end AddedChild

end Snapshot

end HeaderCatalog
