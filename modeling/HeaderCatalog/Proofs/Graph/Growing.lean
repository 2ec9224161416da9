import HeaderCatalog.Proofs.Graph.Height

/-!
# Graphs that grow

A graph without cycles grows in two ways. A node that nothing leads to gets edges to other nodes: no cycle comes up
(`acyclic_of_fresh`). Or two nodes that are there are joined: a cycle comes up exactly if a path runs back already
(`acyclic_joined_iff`).
-/

namespace HeaderCatalog.Graph

open Relation

variable {r r' : Nat → Nat → Prop}

/-! ## A new node -/

/-- A path that starts at another node than the new one is an old path: nothing leads to the new node. -/
theorem transGen_of_fresh {n : Nat} (hedge : ∀ i j, r' i j → j ≠ n ∧ (i ≠ n → r i j)) {i j : Nat} (hi : i ≠ n)
    (h : TransGen r' i j) : TransGen r i j := by
  induction h with
  | single hij => exact .single ((hedge i _ hij).2 hi)
  | @tail k l hik hkj ih =>
    -- the path so far ends in an edge, and so not at the new node
    have hk : k ≠ n := by
      obtain ⟨m, -, hmk⟩ := TransGen.tail'_iff.mp hik
      exact (hedge m k hmk).1
    exact .tail ih ((hedge k l hkj).2 hk)

/-- A new node that nothing leads to closes no cycle. -/
theorem acyclic_of_fresh {n : Nat} (hedge : ∀ i j, r' i j → j ≠ n ∧ (i ≠ n → r i j))
    (hr : ∀ i, ¬TransGen r i i) : ∀ i, ¬TransGen r' i i := by
  intro i hcycle
  have hi : i ≠ n := by
    obtain ⟨k, -, hki⟩ := TransGen.tail'_iff.mp hcycle
    exact (hedge k i hki).1
  exact hr i (transGen_of_fresh hedge hi hcycle)

/-! ## A new edge -/

/-- A path in the graph with a new edge either does without it, or leads to its source and on from its target. -/
theorem transGen_joined {p c : Nat} (hedge : ∀ i j, r' i j → r i j ∨ (i = p ∧ j = c)) {i j : Nat}
    (h : TransGen r' i j) : TransGen r i j ∨ (ReflTransGen r i p ∧ ReflTransGen r c j) := by
  induction h with
  | single hij =>
    rcases hedge _ _ hij with hold | ⟨rfl, rfl⟩
    · exact Or.inl (.single hold)
    · exact Or.inr ⟨.refl, .refl⟩
  | tail hik hkj ih =>
    rcases hedge _ _ hkj with hold | ⟨rfl, rfl⟩
    · rcases ih with hpath | ⟨hto, hfrom⟩
      · exact Or.inl (.tail hpath hold)
      · exact Or.inr ⟨hto, .tail hfrom hold⟩
    · rcases ih with hpath | ⟨hto, -⟩
      · exact Or.inr ⟨hpath.to_reflTransGen, .refl⟩
      · exact Or.inr ⟨hto, .refl⟩

/-- An edge between nodes that are there closes a cycle exactly if its target leads to its source already. -/
theorem acyclic_joined_iff {p c : Nat} (hedge : ∀ i j, r' i j ↔ r i j ∨ (i = p ∧ j = c))
    (hr : ∀ i, ¬TransGen r i i) : (∀ i, ¬TransGen r' i i) ↔ ¬ReflTransGen r c p := by
  constructor
  · intro hacyclic hback
    have hback' : ReflTransGen r' c p :=
      ReflTransGen.mono (fun i j hij => (hedge i j).mpr (Or.inl hij)) c p hback
    exact hacyclic p (TransGen.head' ((hedge p c).mpr (Or.inr ⟨rfl, rfl⟩)) hback')
  · intro hback i hcycle
    rcases transGen_joined (fun i j => (hedge i j).mp) hcycle with hold | ⟨hto, hfrom⟩
    · exact hr i hold
    · exact hback (hfrom.trans hto)

end HeaderCatalog.Graph
