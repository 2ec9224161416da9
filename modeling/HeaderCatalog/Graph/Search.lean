/-!
# Search for a cycle

Depth-first search of a finite graph whose nodes are the numbers below a bound, written as a machine with a step: each
node is fresh, on the path that is being followed, or finished. An edge back into the path closes a cycle. Every step
uses up some of what is left to do (`workload`), which bounds the number of steps; `findCycle` runs the machine that
far, once over all nodes.
-/

namespace HeaderCatalog.Graph

/-- How far the search has come with a node. -/
inductive Mark where
  | fresh
  | onPath
  | finished
deriving DecidableEq, Repr

/-- The state of a search: the marks, the path from its end back to its beginning, each node with the successors that
are still to be looked at, and the node from which the next path may begin. -/
structure Search where
  marks : Array Mark
  path : List (Nat × List Nat)
  start : Nat

/-- How a search ends. -/
inductive Outcome where
  | acyclic
  /-- a node that reaches itself -/
  | cycle (node : Nat)
  /-- a successor that is no node of the graph -/
  | outOfRange (node : Nat)
  /-- the steps did not suffice -/
  | unfinished
deriving DecidableEq, Repr

namespace Search

variable (successors : Nat → List Nat)

/-- The beginning of a search over the nodes below `size`. -/
def initial (size : Nat) : Search := ⟨Array.replicate size .fresh, [], 0⟩

/-- Enters a fresh node. -/
def enter (s : Search) (node : Nat) : Search :=
  { s with marks := s.marks.setIfInBounds node .onPath, path := (node, successors node) :: s.path }

/-- One step: the end of the search, or its next state. -/
def step (s : Search) : Except Outcome Search :=
  match s.path with
  | [] =>
    match s.marks[s.start]? with
    | none => .error .acyclic
    | some .fresh => .ok (s.enter successors s.start)
    | some _ => .ok { s with start := s.start + 1 }
  | (node, []) :: path => .ok { s with marks := s.marks.setIfInBounds node .finished, path := path }
  | (node, next :: rest) :: path =>
    let looked : Search := { s with path := (node, rest) :: path }
    match s.marks[next]? with
    | none => .error (.outOfRange next)
    | some .onPath => .error (.cycle next)
    | some .finished => .ok looked
    | some .fresh => .ok (looked.enter successors next)

/-- The outcome of a search of at most the given number of steps. -/
def run : Nat → Search → Outcome
  | 0, _ => .unfinished
  | steps + 1, s =>
    match step successors s with
    | .error outcome => outcome
    | .ok next => run steps next

end Search

/-- What a search over the nodes below `size` has to do: three steps for a node and one for an edge. -/
def workload (size : Nat) (successors : Nat → List Nat) : Nat :=
  (List.range size).foldr (fun i left => (successors i).length + 3 + left) 0

/-- Whether a graph on the nodes below `size` has a cycle, and a node on it if so. -/
def findCycle (size : Nat) (successors : Nat → List Nat) : Outcome :=
  Search.run successors (workload size successors + 1) (.initial size)

end HeaderCatalog.Graph
