import HeaderCatalog.Catalog.Members
import HeaderCatalog.Catalog.Merge
import HeaderCatalog.Text.Find

/-!
# From a snapshot to a catalogue

Each immediate child of the root is looked at by itself and gives a finding (`Snapshot.finding`): a class, or why it is
none. The list of findings determines the catalogue (`Catalog.ofFindings`) and the log (`findingsLog`). `extract`
checks the snapshot first, so that no finding can fail.
-/

namespace HeaderCatalog

/-- What a child of the root turns out to be. -/
inductive Finding where
  | unrelated
  /-- a class that is only announced -/
  | forward (name : String)
  /-- a class outside the framework -/
  | outside
  /-- a class that the gate left out -/
  | filtered (kind : CursorKind) (name : String) (reason : Reason)
  /-- a class, and the events of its extraction -/
  | interface (i : Interface) (log : List Event)

/-- The class that a finding is. -/
def Finding.interface? : Finding → Option Interface
  | interface i _ => some i
  | _ => none

/-- Whether a finding is a class outside the framework. -/
def Finding.isOutside : Finding → Bool
  | outside => true
  | _ => false

/-- Whether a finding is a class that the gate left out. -/
def Finding.isFiltered : Finding → Bool
  | filtered .. => true
  | _ => false

/-- The classes among findings. -/
def foundInterfaces (found : List Finding) : List Interface := found.filterMap Finding.interface?

/-- The catalogue of findings. -/
def Catalog.ofFindings (o : Options) (found : List Finding) : Catalog :=
  ofInterfaces o (Interface.firsts (foundInterfaces found))

/-- The events of findings, behind the classes that stand. -/
def findingsLog : List Interface → List Finding → List Event
  | _, [] => []
  | kept, .forward name :: found => .forward name :: findingsLog kept found
  | kept, .filtered kind name reason :: found => .skipped kind name reason :: findingsLog kept found
  | kept, .interface i log :: found =>
    log ++ Interface.duplicateEvents kept i ++ findingsLog (Interface.insertFirst kept i) found
  | kept, .unrelated :: found => findingsLog kept found
  | kept, .outside :: found => findingsLog kept found

/-- The event that ends an extraction. -/
def Catalog.event (o : Options) (found : List Finding) : Event :=
  .catalog o.framework? o.platform (Catalog.ofFindings o found).interfaces.length (found.countP Finding.isOutside)
    (found.countP Finding.isFiltered)

/-- Whether a file lies in the framework that the options name. -/
def Options.covers (o : Options) (file? : Option String) : Bool :=
  match o.marker?, file? with
  | none, _ => true
  | some _, none => false
  | some marker, some file => Text.occursIn marker file

namespace Snapshot

variable (s : Snapshot) (o : Options)

/-- What the child of the root at a position turns out to be. -/
def finding (id : CursorId) : Except Fault Finding := do
  let c ← s.cursor id
  if c.kind ≠ .interfaceDeclaration then return .unrelated
  else if !c.isDefinition then return .forward c.spelling
  else if !o.covers c.file? then return .outside
  else
    match ← s.interface o.policy c with
    | .error reason => return .filtered c.kind c.spelling reason
    | .ok (i, log) => return .interface i log

/-- What the children of the root turn out to be. -/
def findings : Except Fault (List Finding) := do
  (← s.cursor s.root).children.mapM (s.finding o)

/-- The catalogue of a snapshot and the log of its extraction. -/
def extract : Except Failure (Catalog × List Event) := do
  s.validate
  match s.findings o with
  | .error fault => .error (.fault fault)
  | .ok found => .ok (.ofFindings o found, findingsLog [] found ++ [Catalog.event o found])

end Snapshot

end HeaderCatalog
