import HeaderCatalog.Snapshot.Query
import HeaderCatalog.Text.Quoted

/-!
# Reports on nodes

One line on a cursor or a type, for messages: its position, its kind and its spelling in quotes.
-/

namespace HeaderCatalog

/-- A position with the name of its arena. -/
def reportPosition (arena : String) (n : Nat) : String :=
  arena ++ "(" ++ String.ofList (Nat.toDigits 10 n) ++ ")"

namespace Snapshot

/-- One line on a cursor. -/
def reportCursor (s : Snapshot) (id : CursorId) : Except Fault String := do
  let c ← s.cursor id
  return "SnapshotCursor \x7b id: " ++ reportPosition "CursorId" id.toNat ++ ", kind: " ++ c.kind.name ++
    ", spelling: " ++ Text.quote c.spelling ++ " \x7d"

/-- One line on a type. -/
def reportType (s : Snapshot) (id : TypeId) : Except Fault String := do
  let t ← s.type id
  return "SnapshotType \x7b id: " ++ reportPosition "TypeId" id.toNat ++ ", spelling: " ++ Text.quote t.spelling ++
    " \x7d"

end Snapshot

end HeaderCatalog
