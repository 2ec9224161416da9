import HeaderCatalog.Proofs.Graph.Colouring

/-!
# The search for a cycle, step by step

`Reached` are the states that a search comes to by its own steps, however many there are. In every one of them
(`Reached.consistent`) the nodes marked as being on the path are those of the path, each node of the path has an edge
to the one above it, the successors of a finished node are finished, and every node that a step may ask for or mark is
a node of the graph.

No run of steps is endless (`wellFounded_step`), and the steps from the beginning stop with the answer of `findCycle`
(`findCycle_reached`), so the bound on the number of steps does not show. `findCycle_settles` puts this together with
what the answer means.
-/

namespace HeaderCatalog.Graph

open Relation

namespace Search

variable {size : Nat} {successors : Nat → List Nat} {s s' : Search}

/-! ## Steps -/

/-- The moves are what the steps do. -/
theorem move_iff : Move successors s s' ↔ step successors s = .ok s' := by
  constructor
  · intro h
    cases h with
    | @skip marks start m hm hfresh => cases m <;> simp_all [step]
    | begin hm => simp [step, hm]
    | leave => rfl
    | pass hm => simp [step, hm]
    | follow hm => simp [step, hm]
  · intro h
    simpa only [h] using @step_spec successors s

/-- The search stops where there is no step. -/
theorem stops_iff {outcome : Outcome} : Stops s outcome ↔ step successors s = .error outcome := by
  constructor
  · intro h
    cases h with
    | done hm => simp [step, hm]
    | back hm => simp [step, hm]
    | out hm => simp [step, hm]
  · intro h
    simpa only [h] using @step_spec successors s

/-- No run of steps is endless, wherever it begins. -/
theorem wellFounded_step (successors : Nat → List Nat) :
    WellFounded fun s' s : Search => step successors s = .ok s' :=
  Subrelation.wf (fun h => work_lt_of_move (move_iff.mpr h)) (measure (work successors)).wf

/-- The states that a search comes to. -/
def Reached (size : Nat) (successors : Nat → List Nat) : Search → Prop :=
  ReflTransGen (fun s s' => step successors s = .ok s') (.initial size)

theorem reached_iff : Reached size successors s ↔ ReflTransGen (Move successors) (.initial size) s := by
  simp only [Reached, ← move_iff]

/-! ## What holds in every state -/

/-- What holds in every state of a search. -/
structure Consistent (size : Nat) (successors : Nat → List Nat) (s : Search) : Prop where
  /-- there is a mark for every node -/
  size_marks : s.marks.size = size
  /-- the next path begins at a node, or the search is behind the last one -/
  start_le : s.start ≤ size
  /-- those on the path are nodes, and so are the successors to look at -/
  path_lt : ∀ entry ∈ s.path, entry.1 < size ∧ ∀ next ∈ entry.2, next < size
  /-- the nodes that are marked as on the path are those of the path, each of them there once -/
  onPath_iff : ∀ i, s.marks[i]? = some .onPath ↔ i ∈ s.path.map Prod.fst
  nodup : (s.path.map Prod.fst).Nodup
  /-- each node of the path has an edge to the one above it -/
  joined : (s.path.map Prod.fst).IsChain fun above below => Edge size successors below above
  /-- the successors of a finished node are finished, so that none is fresh or on the path -/
  closed : ∀ i j, s.marks[i]? = some .finished → Edge size successors i j → s.marks[j]? = some .finished

/-- Each node of a trail has an edge to the one above it. -/
theorem Trail.joined {p : Nat → Prop} {path : List (Nat × List Nat)} :
    ∀ {above : Option Nat}, (∀ i ∈ path.map Prod.fst, i < size) → Trail successors p above path →
      (path.map Prod.fst).IsChain fun above below => Edge size successors below above := by
  induction path with
  | nil => intro _ _ _; exact .nil
  | cons entry path ih =>
    intro above hlt h
    rw [List.map_cons] at hlt
    have hrest := ih (fun i hi => hlt i (List.mem_cons_of_mem _ hi)) h.2
    cases path with
    | nil => exact .singleton _
    | cons below path =>
      obtain ⟨-, ⟨seen, hsplit, -, habove⟩, -⟩ := h
      refine .cons_cons ⟨hlt _ (by simp), ?_⟩ hrest
      rw [hsplit]
      exact List.mem_append_left _ (habove entry.1 rfl)

/-- What is left to look at for a node of a trail are successors of it. -/
theorem Trail.mem_successors {p : Nat → Prop} {path : List (Nat × List Nat)} :
    ∀ {above : Option Nat}, Trail successors p above path →
      ∀ entry ∈ path, ∀ next ∈ entry.2, next ∈ successors entry.1 := by
  induction path with
  | nil => intro _ _ entry hentry; cases hentry
  | cons top path ih =>
    intro above h entry hentry next hnext
    obtain ⟨⟨seen, hsplit, -, -⟩, hrest⟩ := h
    rcases List.mem_cons.mp hentry with rfl | hentry
    · rw [hsplit]
      exact List.mem_append_right _ hnext
    · exact ih hrest entry hentry next hnext

/-- A step passes over a node only if there is one. -/
theorem start_le_of_move (h : Move successors s s') (hs : s.start ≤ s.marks.size) : s'.start ≤ s'.marks.size := by
  cases h with
  | skip hm _ => exact (Array.getElem?_eq_some_iff.mp hm).1
  | begin _ => simpa [enter] using hs
  | leave => simpa using hs
  | pass _ => exact hs
  | follow _ => simpa [enter] using hs

theorem start_le_of_moves (h : ReflTransGen (Move successors) (.initial size) s) : s.start ≤ s.marks.size := by
  induction h with
  | refl => exact Nat.zero_le _
  | tail _ hmove ih => exact start_le_of_move hmove ih

/-- Every state that a search comes to is consistent. -/
theorem Reached.consistent (hrange : InRange size successors) (h : Reached size successors s) :
    Consistent size successors s := by
  have hmoves := reached_iff.mp h
  have hcoloured := coloured_of_moves hmoves
  refine ⟨hcoloured.size_marks, ?_, fun entry hentry => ?_, hcoloured.onPath_iff, hcoloured.nodup,
    hcoloured.trail.joined hcoloured.lt_of_mem, fun i j hi hedge => hcoloured.finished_closed i j hi hedge.2⟩
  · rw [← hcoloured.size_marks]
    exact start_le_of_moves hmoves
  · have hlt : entry.1 < size := hcoloured.lt_of_mem _ (List.mem_map_of_mem hentry)
    exact ⟨hlt, fun next hnext => hrange _ hlt _ (hcoloured.trail.mem_successors entry hentry next hnext)⟩

end Search

/-! ## The answer -/

variable {size : Nat} {successors : Nat → List Nat}

/-- The steps from the beginning stop with the answer of the search. -/
theorem findCycle_reached (size : Nat) (successors : Nat → List Nat) :
    ∃ s, Search.Reached size successors s ∧ Search.step successors s = .error (findCycle size successors) := by
  obtain ⟨s, hmoves, hstops⟩ := findCycle_stops size successors
  exact ⟨s, Search.reached_iff.mpr hmoves, Search.stops_iff.mp hstops⟩

/-- A node that is the answer of the search reaches itself. -/
theorem transGen_of_findCycle (hrange : InRange size successors) {node : Nat}
    (h : findCycle size successors = .cycle node) : TransGen (Edge size successors) node node := by
  rcases findCycle_spec hrange with ⟨hanswer, -⟩ | ⟨found, -, hanswer, hcycle⟩
  · cases h.symm.trans hanswer
  · cases h.symm.trans hanswer
    exact hcycle

/-- **The search for a cycle.** Where all successors of nodes are nodes, the steps of the search come to an end, which
is the answer: that there is no cycle, exactly if there is none, or else a node on one, which reaches itself by at least
one edge. In every state on the way the marks mean what they say, and no step asks for the mark of anything that is no
node. -/
theorem findCycle_settles (hrange : InRange size successors) :
    (WellFounded fun s' s : Search => Search.step successors s = .ok s') ∧
      (∃ s, Search.Reached size successors s ∧ Search.step successors s = .error (findCycle size successors)) ∧
      (∀ s, Search.Reached size successors s → Search.Consistent size successors s) ∧
      (findCycle size successors = .acyclic ∨ ∃ node, findCycle size successors = .cycle node) ∧
      (findCycle size successors = .acyclic ↔ ∀ i, ¬TransGen (Edge size successors) i i) ∧
      ∀ node, findCycle size successors = .cycle node → TransGen (Edge size successors) node node := by
  have hanswer : findCycle size successors = .acyclic ∨ ∃ node, findCycle size successors = .cycle node := by
    rcases findCycle_spec hrange with ⟨hanswer, -⟩ | ⟨node, -, hanswer, -⟩
    · exact Or.inl hanswer
    · exact Or.inr ⟨node, hanswer⟩
  exact ⟨Search.wellFounded_step successors, findCycle_reached size successors, fun s hs => hs.consistent hrange,
    hanswer, findCycle_acyclic_iff hrange, fun node => transGen_of_findCycle hrange⟩

namespace Example

/-- Two ways from the first node to the last, with edges that are there twice. -/
def forked : Nat → List Nat
  | 0 => [1, 2, 1]
  | 1 => [3]
  | 2 => [3, 3]
  | _ => []

/-- Two nodes that lead to each other, behind three that do not, and one that leads to itself. -/
def knotted : Nat → List Nat
  | 0 => [1, 1, 2]
  | 1 => [2]
  | 3 => [0, 4]
  | 4 => [2, 3]
  | 5 => [5]
  | _ => []

/-- The search looks at the edge back before the one of the last node to itself. -/
theorem findCycle_knotted :
    InRange 4 forked ∧ findCycle 4 forked = .acyclic ∧ (∀ i, ¬TransGen (Edge 4 forked) i i) ∧
      InRange 6 knotted ∧ findCycle 6 knotted = .cycle 3 ∧ TransGen (Edge 6 knotted) 3 3 ∧
      ∃ s, Search.Reached 6 knotted s ∧ Search.step knotted s = .error (.cycle 3) ∧ Search.Consistent 6 knotted s := by
  have hforked : InRange 4 forked := by unfold InRange; decide
  have hknotted : InRange 6 knotted := by unfold InRange; decide
  have hnone : findCycle 4 forked = .acyclic := by decide
  have hback : findCycle 6 knotted = .cycle 3 := by decide
  obtain ⟨-, -, -, -, hacyclic, -⟩ := findCycle_settles hforked
  obtain ⟨-, ⟨s, hs, hstop⟩, hconsistent, -, -, hcycle⟩ := findCycle_settles hknotted
  exact ⟨hforked, hnone, hacyclic.mp hnone, hknotted, hback, hcycle 3 hback, s, hs, hback ▸ hstop, hconsistent s hs⟩

end Example

end HeaderCatalog.Graph
