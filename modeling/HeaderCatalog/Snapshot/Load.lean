import HeaderCatalog.Json.Printer
import HeaderCatalog.Snapshot.Document
import HeaderCatalog.Snapshot.Validity

/-!
# Loading snapshots

A text is loaded by reading the document in it and checking the snapshot that it stands for. `Snapshot.text` is the
written form of a snapshot.
-/

namespace HeaderCatalog

/-- Why a text is no snapshot. -/
inductive LoadError where
  | malformed (p : Json.Problem)
  | unsound (f : Failure)
deriving DecidableEq, Repr

/-- The reason in words. -/
def LoadError.message : LoadError → String
  | malformed p => "malformed snapshot: " ++ p.message
  | unsound f => f.message

namespace Snapshot

/-- The snapshot that a text stands for. -/
def ofText (text : String) : Except LoadError Snapshot := do
  let s ← (schema.read.run text).mapError .malformed
  s.validate.mapError .unsound
  return s

/-- The written form of a snapshot. -/
def text (s : Snapshot) : String := s.toJson.compactText

end Snapshot

end HeaderCatalog
