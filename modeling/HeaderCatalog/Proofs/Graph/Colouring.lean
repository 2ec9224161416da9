import HeaderCatalog.Proofs.Graph.Search

/-!
# A search finds a cycle exactly when there is one

`Coloured` says what the marks mean throughout a search. The nodes on the path are exactly those marked so, each of
them has an edge to the one above it (`Trail`), the successors of a finished node are finished, and no endless walk
starts at a finished node. Every move keeps this (`coloured_of_move`), so it holds of every state of a search
(`coloured_of_moves`).

* Where all nodes are finished, no walk from a node is endless (`acc_of_done`).
* An edge back into the path closes a cycle (`cycle_of_back`).

`findCycle_spec` puts this together, and `findCycle_acyclic_iff` says when the answer is that there is no cycle.
-/

namespace HeaderCatalog.Graph

open Relation

namespace Search

variable {size : Nat} {successors : Nat → List Nat}

/-- A path from its end back to its beginning: of the successors of each node those already looked at are finished,
but for the node above it, which is one of them. -/
def Trail (successors : Nat → List Nat) (finished : Nat → Prop) : Option Nat → List (Nat × List Nat) → Prop
  | _, [] => True
  | above, (node, left) :: path =>
    (∃ seen, successors node = seen ++ left ∧ (∀ j ∈ seen, finished j ∨ above = some j) ∧ ∀ j ∈ above, j ∈ seen) ∧
      Trail successors finished (some node) path

/-- What the marks mean. The node `above` is one that the end of the path is about to go to. -/
structure Coloured (size : Nat) (successors : Nat → List Nat) (above : Option Nat) (s : Search) : Prop where
  size_marks : s.marks.size = size
  onPath_iff : ∀ i, s.marks[i]? = some .onPath ↔ i ∈ s.path.map Prod.fst
  nodup : (s.path.map Prod.fst).Nodup
  trail : Trail successors (fun i => s.marks[i]? = some .finished) above s.path
  finished_closed : ∀ i j, s.marks[i]? = some .finished → j ∈ successors i → s.marks[j]? = some .finished
  finished_acc : ∀ i, s.marks[i]? = some .finished → Acc (fun j i => Edge size successors i j) i
  passed : ∀ i < s.start, s.marks[i]? ≠ some .fresh

/-! ## Trails -/

theorem Trail.mono {p q : Nat → Prop} {path : List (Nat × List Nat)} (hpq : ∀ i, p i → q i) :
    ∀ {above : Option Nat}, Trail successors p above path → Trail successors q above path := by
  induction path with
  | nil => intro _ _; trivial
  | cons entry path ih =>
    intro above h
    obtain ⟨⟨seen, hsplit, hseen, habove⟩, hrest⟩ := h
    exact ⟨⟨seen, hsplit, fun j hj => (hseen j hj).imp_left (hpq j), habove⟩, ih hrest⟩

/-- A node above the path that is finished need not be told from the others. -/
theorem Trail.settle {p : Nat → Prop} {next : Nat} {path : List (Nat × List Nat)}
    (h : Trail successors p (some next) path) (hp : p next) : Trail successors p none path := by
  cases path with
  | nil => trivial
  | cons entry path =>
    obtain ⟨⟨seen, hsplit, hseen, -⟩, hrest⟩ := h
    refine ⟨⟨seen, hsplit, fun j hj => ?_, by simp⟩, hrest⟩
    rcases hseen j hj with hj | hj
    · exact Or.inl hj
    · cases hj; exact Or.inl hp

/-- The next successor of the end of the path is looked at. -/
theorem Trail.look {p : Nat → Prop} {node next : Nat} {left : List Nat} {path : List (Nat × List Nat)}
    (h : Trail successors p none ((node, next :: left) :: path)) :
    Trail successors p (some next) ((node, left) :: path) := by
  obtain ⟨⟨seen, hsplit, hseen, -⟩, hrest⟩ := h
  refine ⟨⟨seen ++ [next], by simp [hsplit], fun j hj => ?_, fun j hj => ?_⟩, hrest⟩
  · rcases List.mem_append.mp hj with hj | hj
    · exact Or.inl ((hseen j hj).resolve_right (by simp))
    · exact Or.inr (by simpa using (List.mem_singleton.mp hj).symm)
  · cases hj; simp

/-- Every node of a trail reaches the one above its end. -/
theorem Trail.reaches {p : Nat → Prop} {path : List (Nat × List Nat)} :
    ∀ {above : Nat}, (∀ i ∈ path.map Prod.fst, i < size) → Trail successors p (some above) path →
      ∀ i ∈ path.map Prod.fst, TransGen (Edge size successors) i above := by
  induction path with
  | nil => intro _ _ _ i hi; cases hi
  | cons entry path ih =>
    intro above hlt h i hi
    obtain ⟨⟨seen, hsplit, -, habove⟩, hrest⟩ := h
    have hedge : Edge size successors entry.1 above :=
      ⟨hlt _ (by simp), by rw [hsplit]; exact List.mem_append_left _ (habove above rfl)⟩
    rw [List.map_cons] at hlt hi
    rcases List.mem_cons.mp hi with rfl | hi
    · exact .single hedge
    · exact (ih (fun i hi => hlt i (List.mem_cons_of_mem _ hi)) hrest i hi).tail hedge

/-! ## Moves keep the colouring -/

theorem coloured_initial : Coloured size successors none (.initial size) where
  size_marks := Array.size_replicate
  onPath_iff i := by
    simp only [initial, Array.getElem?_replicate, List.map_nil, List.not_mem_nil, iff_false]
    split <;> simp
  nodup := List.nodup_nil
  trail := trivial
  finished_closed i j hi _ := by
    simp only [initial, Array.getElem?_replicate] at hi
    split at hi <;> cases hi
  finished_acc i hi := by
    simp only [initial, Array.getElem?_replicate] at hi
    split at hi <;> cases hi
  passed i hi := absurd hi (Nat.not_lt_zero i)

/-- A node on the path is a node. -/
theorem Coloured.lt_of_mem {above : Option Nat} {s : Search} (h : Coloured size successors above s) :
    ∀ i ∈ s.path.map Prod.fst, i < size := fun i hi => by
  rw [← h.size_marks]
  exact (Array.getElem?_eq_some_iff.mp ((h.onPath_iff i).mpr hi)).1

/-- A mark that is set where another one stood changes that node only. -/
theorem getElem?_mark {marks : Array Mark} {node : Nat} {old m : Mark} (h : marks[node]? = some old) (i : Nat) :
    (marks.setIfInBounds node m)[i]? = if node = i then some m else marks[i]? := by
  have hlt : node < marks.size := (Array.getElem?_eq_some_iff.mp h).1
  split
  · rename_i hi; rw [← hi, Array.getElem?_setIfInBounds_self_of_lt hlt]
  · rename_i hi; rw [Array.getElem?_setIfInBounds_ne hi]

/-- Entering a fresh node to which the end of the path is about to go. -/
theorem Coloured.enter {s : Search} {next : Nat} (h : Coloured size successors (some next) s)
    (hm : s.marks[next]? = some .fresh) : Coloured size successors none (s.enter successors next) := by
  have hfinished : ∀ i : Nat, (s.marks.setIfInBounds next .onPath)[i]? = some Mark.finished ↔
      s.marks[i]? = some Mark.finished := by
    intro i
    rw [getElem?_mark hm]
    split
    · rename_i hi; subst hi; simp [hm]
    · rfl
  have hnot : next ∉ s.path.map Prod.fst := fun hmem => by
    rw [(h.onPath_iff next).mpr hmem] at hm; cases hm
  refine ⟨?_, fun i => ?_, ?_, ?_, fun i j hi hj => ?_, fun i hi => ?_, fun i hi => ?_⟩
  · simp [Search.enter, h.size_marks]
  · simp only [Search.enter, getElem?_mark hm, List.map_cons, List.mem_cons]
    split
    · rename_i hi; subst hi; simp
    · rename_i hi
      rw [h.onPath_iff i]
      exact ⟨Or.inr, fun h => h.resolve_left fun e => hi e.symm⟩
  · exact List.nodup_cons.mpr ⟨hnot, h.nodup⟩
  · exact ⟨⟨[], rfl, by simp, by simp⟩, h.trail.mono fun i hi => (hfinished i).mpr hi⟩
  · exact (hfinished j).mpr (h.finished_closed i j ((hfinished i).mp hi) hj)
  · exact h.finished_acc i ((hfinished i).mp hi)
  · simp only [Search.enter, getElem?_mark hm]
    split
    · simp
    · exact h.passed i hi

/-- Looking at the next successor of the end of the path. -/
theorem Coloured.look {marks : Array Mark} {start node next : Nat} {left : List Nat} {path : List (Nat × List Nat)}
    (h : Coloured size successors none ⟨marks, (node, next :: left) :: path, start⟩) :
    Coloured size successors (some next) ⟨marks, (node, left) :: path, start⟩ :=
  ⟨h.size_marks, h.onPath_iff, h.nodup, h.trail.look, h.finished_closed, h.finished_acc, h.passed⟩

/-- Leaving a node all of whose successors are finished. -/
theorem Coloured.leave {marks : Array Mark} {start node : Nat} {path : List (Nat × List Nat)}
    (h : Coloured size successors none ⟨marks, (node, []) :: path, start⟩) :
    Coloured size successors none ⟨marks.setIfInBounds node .finished, path, start⟩ := by
  have hm : marks[node]? = some .onPath := (h.onPath_iff node).mpr (by simp)
  have hnot : node ∉ path.map Prod.fst := (List.nodup_cons.mp h.nodup).1
  obtain ⟨⟨seen, hsplit, hseen, -⟩, hrest⟩ := h.trail
  rw [List.append_nil] at hsplit
  have hsuccessors : ∀ j ∈ successors node, marks[j]? = some .finished := fun j hj =>
    (hseen j (hsplit ▸ hj)).resolve_right (by simp)
  have hmono : ∀ i : Nat, marks[i]? = some Mark.finished →
      (marks.setIfInBounds node .finished)[i]? = some Mark.finished := by
    intro i hi
    rw [getElem?_mark hm]
    split
    · rfl
    · exact hi
  refine ⟨by simpa using h.size_marks, fun i => ?_, (List.nodup_cons.mp h.nodup).2, ?_, fun i j hi hj => ?_,
    fun i hi => ?_, fun i hi => ?_⟩
  · rw [getElem?_mark hm]
    split
    · rename_i hi; subst hi; simpa using hnot
    · rename_i hi
      have := h.onPath_iff i
      simp only [List.map_cons, List.mem_cons] at this
      rw [this]
      exact ⟨fun h => h.resolve_left fun e => hi e.symm, Or.inr⟩
  · refine (hrest.mono hmono).settle ?_
    rw [getElem?_mark hm, if_pos rfl]
  · rw [getElem?_mark hm] at hi
    split at hi
    · rename_i he; subst he; exact hmono j (hsuccessors j hj)
    · exact hmono j (h.finished_closed i j hi hj)
  · rw [getElem?_mark hm] at hi
    split at hi
    · rename_i he; subst he
      exact Acc.intro _ fun j hj => h.finished_acc j (hsuccessors j hj.2)
    · exact h.finished_acc i hi
  · rw [getElem?_mark hm]
    split
    · simp
    · exact h.passed i hi

/-- Every move keeps the colouring. -/
theorem coloured_of_move {s s' : Search} (h : Coloured size successors none s) (hmove : Move successors s s') :
    Coloured size successors none s' := by
  cases hmove with
  | @skip marks start m hm hfresh =>
    refine ⟨h.size_marks, h.onPath_iff, h.nodup, h.trail, h.finished_closed, h.finished_acc, fun i hi => ?_⟩
    rcases Nat.lt_succ_iff_lt_or_eq.mp hi with hi | rfl
    · exact h.passed i hi
    · rw [hm]; simpa using hfresh
  | begin hm =>
    refine Coloured.enter ?_ hm
    exact ⟨h.size_marks, h.onPath_iff, h.nodup, trivial, h.finished_closed, h.finished_acc, h.passed⟩
  | leave => exact h.leave
  | pass hm =>
    have := h.look
    exact ⟨this.size_marks, this.onPath_iff, this.nodup, this.trail.settle hm, this.finished_closed,
      this.finished_acc, this.passed⟩
  | follow hm => exact h.look.enter hm

/-- Every state of a search is coloured. -/
theorem coloured_of_moves {s : Search} (h : ReflTransGen (Move successors) (.initial size) s) :
    Coloured size successors none s := by
  induction h with
  | refl => exact coloured_initial
  | tail _ hmove ih => exact coloured_of_move ih hmove

/-! ## What the search has seen where it stops -/

/-- Behind the last node and with no path, every node is finished, and no walk from it is endless. -/
theorem acc_of_done {marks : Array Mark} {start : Nat} (h : Coloured size successors none ⟨marks, [], start⟩)
    (hdone : marks[start]? = none) {i : Nat} (hi : i < size) : Acc (fun j i => Edge size successors i j) i := by
  have hstart : size ≤ start := by
    rw [← h.size_marks]
    exact Array.getElem?_eq_none_iff.mp hdone
  have hlt : i < marks.size := by rw [h.size_marks]; exact hi
  have hm : marks[i]? = some marks[i] := Array.getElem?_eq_getElem hlt
  apply h.finished_acc
  cases hmark : marks[i] with
  | fresh => exact absurd (hmark ▸ hm) (h.passed i (Nat.lt_of_lt_of_le hi hstart))
  | onPath => cases (h.onPath_iff i).mp (hmark ▸ hm)
  | finished => exact hmark ▸ hm

/-- A successor that is on the path reaches itself. -/
theorem cycle_of_back {marks : Array Mark} {start node next : Nat} {left : List Nat} {path : List (Nat × List Nat)}
    (h : Coloured size successors none ⟨marks, (node, next :: left) :: path, start⟩)
    (hback : marks[next]? = some .onPath) : TransGen (Edge size successors) next next :=
  h.look.trail.reaches h.look.lt_of_mem next ((h.onPath_iff next).mp hback)

/-- The successor that is looked at is a node. -/
theorem next_lt {marks : Array Mark} {start node next : Nat} {left : List Nat} {path : List (Nat × List Nat)}
    (hrange : InRange size successors)
    (h : Coloured size successors none ⟨marks, (node, next :: left) :: path, start⟩) : next < size := by
  obtain ⟨⟨seen, hsplit, -, -⟩, -⟩ := h.trail
  exact hrange node (h.lt_of_mem node (by simp)) next (by rw [hsplit]; simp)

end Search

/-- Where no walk is endless, none leads back to its beginning. -/
theorem not_transGen_of_acc {r : Nat → Nat → Prop} {i : Nat} (h : Acc (fun j i => r i j) i) : ¬TransGen r i i := by
  have hacc := h.transGen
  clear h
  induction hacc with
  | intro i _ ih => exact fun hcycle => ih i (transGen_swap.mpr hcycle) hcycle

/-- The answer of the search, where all successors are nodes: either there is no cycle, or the node is on one. -/
theorem findCycle_spec {size : Nat} {successors : Nat → List Nat} (hrange : InRange size successors) :
    (findCycle size successors = .acyclic ∧ ∀ i, ¬TransGen (Edge size successors) i i) ∨
      ∃ node < size, findCycle size successors = .cycle node ∧ TransGen (Edge size successors) node node := by
  obtain ⟨s, hmoves, hstops⟩ := findCycle_stops size successors
  have hcoloured := Search.coloured_of_moves hmoves
  generalize findCycle size successors = outcome at hstops
  cases hstops with
  | done hm =>
    refine Or.inl ⟨rfl, fun i hcycle => ?_⟩
    obtain ⟨j, hedge, -⟩ := TransGen.head'_iff.mp hcycle
    exact not_transGen_of_acc (Search.acc_of_done hcoloured hm hedge.1) hcycle
  | back hm =>
    exact Or.inr ⟨_, Search.next_lt hrange hcoloured, rfl, Search.cycle_of_back hcoloured hm⟩
  | out hm =>
    have := Search.next_lt hrange hcoloured
    rw [Array.getElem?_eq_none_iff] at hm
    have := hcoloured.size_marks
    simp only at this
    omega

/-- The search answers that there is no cycle exactly when there is none. -/
theorem findCycle_acyclic_iff {size : Nat} {successors : Nat → List Nat} (hrange : InRange size successors) :
    findCycle size successors = .acyclic ↔ ∀ i, ¬TransGen (Edge size successors) i i := by
  rcases findCycle_spec hrange with ⟨hanswer, hnone⟩ | ⟨node, -, hanswer, hcycle⟩
  · exact ⟨fun _ => hnone, fun _ => hanswer⟩
  · refine ⟨fun h => ?_, fun h => absurd hcycle (h node)⟩
    rw [hanswer] at h
    cases h

end HeaderCatalog.Graph
