import HeaderCatalog.Availability.Policy
import HeaderCatalog.Snapshot.Kind
import HeaderCatalog.Text.Quoted

/-!
# The log of a run

What a run reports beside its catalogue, as values: each event has a level, a message and named fields.
-/

namespace HeaderCatalog

/-- How important an event is. -/
inductive Level where
  | trace
  | debug
  | info
  | warn
deriving DecidableEq, Repr

/-- The name of a level. -/
def Level.name : Level → String
  | trace => "TRACE"
  | debug => "DEBUG"
  | info => "INFO"
  | warn => "WARN"

/-- Something that happened in a run. -/
inductive Event where
  /-- a declaration was left out by the gate -/
  | skipped (kind : CursorKind) (name : String) (reason : Reason)
  /-- a class was only announced, not defined -/
  | forward (name : String)
  /-- a class named another superclass before; the earlier one is dropped -/
  | secondSuperclass (interface dropped : String)
  | interface (name : String) (properties instanceMethods classMethods : Nat)
  /-- a class of the same name was found before; the later one is dropped -/
  | duplicate (interface keptFile droppedFile : String)
  | catalog (framework? : Option String) (platform : String) (interfaces outside filtered : Nat)
  | loaded (path : String) (cursors types : Nat)
  | written (path : String)
deriving DecidableEq, Repr

namespace Event

/-- The level of an event. -/
def level : Event → Level
  | skipped .. | forward .. => .trace
  | interface .. | loaded .. => .debug
  | catalog .. | written .. => .info
  | secondSuperclass .. | duplicate .. => .warn

/-- The message of an event. -/
def message : Event → String
  | skipped .. => "skipping declaration"
  | forward .. => "skipping forward declaration"
  | secondSuperclass .. => "multiple superclass references"
  | interface .. => "extracted interface"
  | duplicate .. => "duplicate interface definition"
  | catalog .. => "extracted framework metadata"
  | loaded .. => "loaded snapshot"
  | written .. => "wrote metadata"

/-- An optional text in a field. -/
def optionText : Option String → String
  | none => "None"
  | some s => "Some(" ++ Text.quote s ++ ")"

/-- The fields of an event. -/
def fields : Event → List (String × Json)
  | skipped kind name reason => [("kind", .string kind.name), ("name", .string name), ("reason", .string reason.text)]
  | forward name => [("name", .string name)]
  | secondSuperclass name dropped => [("interface", .string name), ("dropped", .string dropped)]
  | interface name properties instanceMethods classMethods =>
    [("interface", .string name), ("properties", .nat properties), ("instance_methods", .nat instanceMethods),
      ("class_methods", .nat classMethods)]
  | duplicate name keptFile droppedFile =>
    [("interface", .string name), ("kept", .string keptFile), ("dropped", .string droppedFile)]
  | catalog framework? platform interfaces outside filtered =>
    [("framework", .string (optionText framework?)), ("platform", .string platform), ("interfaces", .nat interfaces),
      ("outside", .nat outside), ("filtered", .nat filtered)]
  | loaded path cursors types => [("path", .string path), ("cursors", .nat cursors), ("types", .nat types)]
  | written path => [("path", .string path)]

/-- An event as a document. -/
def toJson (e : Event) : Json := .object [
  ("level", .string e.level.name),
  ("message", .string e.message),
  ("fields", .object e.fields)]

end Event

end HeaderCatalog
