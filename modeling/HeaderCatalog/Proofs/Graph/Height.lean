import Mathlib.Data.Finset.Card
import Mathlib.Data.Finset.Range
import Mathlib.Logic.Relation

/-!
# Heights in a finite graph

A graph has no cycle if its edges are among those of a graph without one (`acyclic_mono`), or all lead down an order
(`acyclic_of_le`). In a graph without cycles each node has a height, the number of nodes that it reaches. An edge
leads down (`height_lt`), and with `size` nodes all heights lie below `size` (`height_lt_size`). A recursion along the
edges that is bounded by more than the height of its node therefore never runs into its bound.
-/

namespace HeaderCatalog.Graph

open Relation

variable {r s : Nat → Nat → Prop} {size : Nat}

/-- With fewer edges there is no new cycle. -/
theorem acyclic_mono (h : r ≤ s) (hs : ∀ i, ¬TransGen s i i) (i : Nat) : ¬TransGen r i i := fun hcycle =>
  hs i (TransGen.mono h i i hcycle)

/-- Edges that all lead down an order have no cycle. -/
theorem acyclic_of_le [IsStrictOrder Nat s] (h : r ≤ s) : ∀ i, ¬TransGen r i i := by
  refine acyclic_mono h fun i hcycle => ?_
  rw [transGen_eq_self] at hcycle
  exact irrefl i hcycle

open Classical in
/-- How many of the nodes below `size` a node reaches. -/
noncomputable def height (size : Nat) (r : Nat → Nat → Prop) (i : Nat) : Nat :=
  ((Finset.range size).filter fun j => TransGen r i j).card

/-- An edge leads down. -/
theorem height_lt (hacyclic : ∀ i, ¬TransGen r i i) {i j : Nat} (hedge : r i j) (hj : j < size) :
    height size r j < height size r i := by
  classical
  refine Finset.card_lt_card ((Finset.ssubset_iff_of_subset fun k hk => ?_).mpr ⟨j, ?_, ?_⟩)
  · rw [Finset.mem_filter] at hk ⊢
    exact ⟨hk.1, .head hedge hk.2⟩
  · exact Finset.mem_filter.mpr ⟨Finset.mem_range.mpr hj, .single hedge⟩
  · exact fun hmem => hacyclic j (Finset.mem_filter.mp hmem).2

/-- A node does not reach itself, so it reaches less than all. -/
theorem height_lt_size (hacyclic : ∀ i, ¬TransGen r i i) {i : Nat} (hi : i < size) : height size r i < size := by
  classical
  have hsub : ((Finset.range size).filter fun j => TransGen r i j) ⊂ Finset.range size :=
    (Finset.ssubset_iff_of_subset (Finset.filter_subset _ _)).mpr
      ⟨i, Finset.mem_range.mpr hi, fun hmem => hacyclic i (Finset.mem_filter.mp hmem).2⟩
  calc height size r i < (Finset.range size).card := Finset.card_lt_card hsub
    _ = size := Finset.card_range size

end HeaderCatalog.Graph
