import HeaderCatalog.Snapshot.Query

/-!
# Walks

A walk shows the children of a cursor to a visitor, one by one. The visitor has a state, and answers each time whether
the walk goes on with the next child, first goes down into the one just shown, or ends for good. Sound snapshots hold
no path of children longer than their number of cursors, so the walk is bounded by it; in others it may run into the
bound, which is a fault.
-/

namespace HeaderCatalog

/-- What a visitor wants next. -/
inductive Visit where
  | leave
  | next
  | descend
deriving DecidableEq, Repr

namespace Snapshot

variable {σ : Type} (s : Snapshot) (visitor : σ → CursorId → Visit × σ)

/-- Shows children one by one, their own children through `below`; answers whether the walk may go on. -/
def walkList (below : CursorId → σ → Except Fault (Bool × σ)) : List CursorId → σ → Except Fault (Bool × σ)
  | [], state => .ok (true, state)
  | id :: ids, state =>
    match visitor state id with
    | (.leave, state) => .ok (false, state)
    | (.next, state) => walkList below ids state
    | (.descend, state) => do
      let (goesOn, state) ← below id state
      if goesOn then walkList below ids state else return (false, state)

/-- Walks below a cursor, at most `depth` levels down. -/
def walkBelow : Nat → CursorId → σ → Except Fault (Bool × σ)
  | 0, _, _ => .error .endless
  | depth + 1, id, state => do
    let c ← s.cursor id
    walkList visitor (walkBelow depth) c.children state

/-- The visitor's state after a walk below a cursor. -/
def walk (start : CursorId) (state : σ) : Except Fault σ := do
  return (← s.walkBelow visitor (s.cursors.size + 1) start state).2

end Snapshot

end HeaderCatalog
