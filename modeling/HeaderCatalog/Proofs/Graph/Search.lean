import HeaderCatalog.Graph.Search
import Mathlib.Algebra.BigOperators.Group.Finset.Basic
import Mathlib.Algebra.GroupWithZero.Nat
import Mathlib.Algebra.Order.BigOperators.Group.Finset
import Mathlib.Logic.Relation

/-!
# The search for a cycle ends

The graph has the nodes below `size`, and an edge from each to its successors (`Edge`). The steps of the search are
the five kinds of `Move`, and it stops in the three situations of `Stops` (`step_spec`). Every move uses up some of the
work that is left (`work_lt_of_move`), so a search with enough steps stops in a state that its moves lead to
(`run_stops`, `findCycle_stops`).
-/

namespace HeaderCatalog.Graph

/-- There is an edge from one node to another. -/
def Edge (size : Nat) (successors : Nat → List Nat) (i j : Nat) : Prop := i < size ∧ j ∈ successors i

/-- All successors of nodes are nodes. -/
def InRange (size : Nat) (successors : Nat → List Nat) : Prop := ∀ i < size, ∀ j ∈ successors i, j < size

namespace Search

variable {successors : Nat → List Nat}

/-! ## Moves -/

/-- What one step of a search does: it passes over a node that is not fresh, begins a path, leaves a node with all
successors looked at, passes over a finished successor, or follows an edge to a fresh one. -/
inductive Move (successors : Nat → List Nat) : Search → Search → Prop
  | skip {marks : Array Mark} {start : Nat} {m : Mark} : marks[start]? = some m → m ≠ .fresh →
      Move successors ⟨marks, [], start⟩ ⟨marks, [], start + 1⟩
  | begin {marks : Array Mark} {start : Nat} : marks[start]? = some .fresh →
      Move successors ⟨marks, [], start⟩ (enter successors ⟨marks, [], start⟩ start)
  | leave {marks : Array Mark} {start node : Nat} {path : List (Nat × List Nat)} :
      Move successors ⟨marks, (node, []) :: path, start⟩ ⟨marks.setIfInBounds node .finished, path, start⟩
  | pass {marks : Array Mark} {start node next : Nat} {left : List Nat} {path : List (Nat × List Nat)} :
      marks[next]? = some .finished →
      Move successors ⟨marks, (node, next :: left) :: path, start⟩ ⟨marks, (node, left) :: path, start⟩
  | follow {marks : Array Mark} {start node next : Nat} {left : List Nat} {path : List (Nat × List Nat)} :
      marks[next]? = some .fresh →
      Move successors ⟨marks, (node, next :: left) :: path, start⟩
        (enter successors ⟨marks, (node, left) :: path, start⟩ next)

/-- Where a search stops: behind the last node, at an edge back into the path, at an edge out of the graph. -/
inductive Stops : Search → Outcome → Prop
  | done {marks : Array Mark} {start : Nat} : marks[start]? = none → Stops ⟨marks, [], start⟩ .acyclic
  | back {marks : Array Mark} {start node next : Nat} {left : List Nat} {path : List (Nat × List Nat)} :
      marks[next]? = some .onPath → Stops ⟨marks, (node, next :: left) :: path, start⟩ (.cycle next)
  | out {marks : Array Mark} {start node next : Nat} {left : List Nat} {path : List (Nat × List Nat)} :
      marks[next]? = none → Stops ⟨marks, (node, next :: left) :: path, start⟩ (.outOfRange next)

/-- A step is a move, or the search stops. -/
theorem step_spec (s : Search) :
    match step successors s with
    | .ok next => Move successors s next
    | .error outcome => Stops s outcome := by
  obtain ⟨marks, path, start⟩ := s
  match path with
  | [] =>
    cases h : marks[start]? with
    | none => simpa [step, h] using Stops.done h
    | some m =>
      cases m with
      | fresh => simpa [step, h] using Move.begin h
      | onPath => simpa [step, h] using Move.skip h (by decide)
      | finished => simpa [step, h] using Move.skip h (by decide)
  | (node, []) :: path => exact Move.leave
  | (node, next :: left) :: path =>
    cases h : marks[next]? with
    | none => simpa [step, h] using Stops.out h
    | some m =>
      cases m with
      | fresh => simpa [step, h] using Move.follow h
      | onPath => simpa [step, h] using Stops.back h
      | finished => simpa [step, h] using Move.pass h

/-! ## Termination -/

/-- The work that a node makes beside that of its path: two units and one for each edge, while it is fresh. -/
def nodeWork (successors : Nat → List Nat) (i : Nat) : Option Mark → Nat
  | some .fresh => (successors i).length + 2
  | _ => 0

/-- The work that is left: that of the nodes, one unit and one for each edge still to be looked at for a node of the
path, and one for each node from which no path was begun. -/
def work (successors : Nat → List Nat) (s : Search) : Nat :=
  (∑ i ∈ Finset.range s.marks.size, nodeWork successors i s.marks[i]?) +
    (s.path.map fun entry => entry.2.length + 1).sum + (s.marks.size - s.start)

/-- Entering a fresh node takes one unit of work. -/
theorem work_enter {marks : Array Mark} {path : List (Nat × List Nat)} {start node : Nat}
    (h : marks[node]? = some .fresh) :
    work successors (enter successors ⟨marks, path, start⟩ node) + 1 = work successors ⟨marks, path, start⟩ := by
  have hlt : node < marks.size := (Array.getElem?_eq_some_iff.mp h).1
  have hmem : node ∈ Finset.range marks.size := Finset.mem_range.mpr hlt
  have hrest : ∀ i ∈ (Finset.range marks.size).erase node,
      nodeWork successors i (marks.setIfInBounds node .onPath)[i]? = nodeWork successors i marks[i]? := by
    intro i hi
    rw [Array.getElem?_setIfInBounds_ne (Finset.ne_of_mem_erase hi).symm]
  simp only [work, enter, Array.size_setIfInBounds, List.map_cons, List.sum_cons]
  rw [← Finset.add_sum_erase _ _ hmem, ← Finset.add_sum_erase _ _ hmem, Finset.sum_congr rfl hrest, h,
    Array.getElem?_setIfInBounds_self_of_lt hlt]
  simp only [nodeWork]
  omega

/-- Marking a node as finished adds no work. -/
theorem work_finish (marks : Array Mark) (path : List (Nat × List Nat)) (start node : Nat) :
    work successors ⟨marks.setIfInBounds node .finished, path, start⟩ ≤ work successors ⟨marks, path, start⟩ := by
  have hnode : ∀ i ∈ Finset.range marks.size,
      nodeWork successors i (marks.setIfInBounds node .finished)[i]? ≤ nodeWork successors i marks[i]? := by
    intro i hi
    by_cases hn : node = i
    · subst hn
      rw [Array.getElem?_setIfInBounds_self_of_lt (Finset.mem_range.mp hi)]
      exact Nat.zero_le _
    · rw [Array.getElem?_setIfInBounds_ne hn]
  have := Finset.sum_le_sum hnode
  simp only [work, Array.size_setIfInBounds]
  omega

/-- Every move uses up work. -/
theorem work_lt_of_move {s s' : Search} (h : Move successors s s') : work successors s' < work successors s := by
  cases h with
  | @skip marks start m hm _ =>
    have : start < marks.size := (Array.getElem?_eq_some_iff.mp hm).1
    simp only [work]
    omega
  | @begin marks start hm => exact Nat.lt_of_succ_le (Nat.le_of_eq (work_enter hm))
  | @leave marks start node path =>
    have : work successors _ ≤ work successors _ := work_finish marks path start node
    simp only [work, List.map_cons, List.sum_cons] at this ⊢
    omega
  | pass hm => simp only [work, List.map_cons, List.sum_cons, List.length_cons]; omega
  | @follow marks start node next left path hm =>
    have hwork : work successors _ + 1 = work successors ⟨marks, (node, left) :: path, start⟩ := work_enter hm
    have : work successors ⟨marks, (node, left) :: path, start⟩ <
        work successors ⟨marks, (node, next :: left) :: path, start⟩ := by
      simp only [work, List.map_cons, List.sum_cons, List.length_cons]; omega
    omega

/-- A search with more steps than work stops in a state that its moves lead to. -/
theorem run_stops {steps : Nat} {s : Search} (h : work successors s < steps) :
    ∃ s', Relation.ReflTransGen (Move successors) s s' ∧ Stops s' (run successors steps s) := by
  induction steps generalizing s with
  | zero => omega
  | succ steps ih =>
    have hstep : match step successors s with
        | .ok next => Move successors s next
        | .error outcome => Stops s outcome :=
      step_spec s
    unfold run
    cases hs : step successors s with
    | error outcome => rw [hs] at hstep; exact ⟨s, .refl, hstep⟩
    | ok next =>
      rw [hs] at hstep
      have := work_lt_of_move hstep
      obtain ⟨s', hmoves, hstops⟩ := ih (show work successors next < steps by omega)
      exact ⟨s', .head hstep hmoves, hstops⟩

end Search

/-- The workload of a graph is the work that is left at the beginning. -/
theorem work_initial (size : Nat) (successors : Nat → List Nat) :
    Search.work successors (.initial size) = workload size successors := by
  have hsum : ∀ n, workload n successors = (∑ i ∈ Finset.range n, ((successors i).length + 2)) + n := by
    intro n
    induction n with
    | zero => rfl
    | succ n ih =>
      have hfold : ∀ (l : List Nat) (a : Nat), l.foldr (fun i left => (successors i).length + 3 + left) a =
          l.foldr (fun i left => (successors i).length + 3 + left) 0 + a := by
        intro l a
        induction l with
        | nil => simp
        | cons i l ih => simp only [List.foldr_cons]; omega
      unfold workload at ih ⊢
      rw [List.range_succ, List.foldr_append, hfold, ih, Finset.sum_range_succ]
      simp only [List.foldr_cons, List.foldr_nil]
      omega
  rw [hsum]
  simp only [Search.work, Search.initial, Array.size_replicate, List.map_nil, List.sum_nil, Nat.sub_zero,
    Nat.add_zero]
  congr 1
  refine Finset.sum_congr rfl fun i hi => ?_
  rw [Array.getElem?_replicate, if_pos (Finset.mem_range.mp hi)]
  rfl

/-- The search for a cycle stops in a state that the moves lead to from the beginning. -/
theorem findCycle_stops (size : Nat) (successors : Nat → List Nat) :
    ∃ s, Relation.ReflTransGen (Search.Move successors) (.initial size) s ∧
      Search.Stops s (findCycle size successors) :=
  Search.run_stops (by rw [work_initial]; exact Nat.lt_succ_self _)

end HeaderCatalog.Graph
