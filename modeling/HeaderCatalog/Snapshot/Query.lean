import HeaderCatalog.Snapshot.Validity
import HeaderCatalog.Text.Uppercase

/-!
# Questions about nodes

What a cursor or a type answers, with the answers that stand for parts that were left out. Answers that are other
nodes are positions; only `Snapshot.cursor` and `Snapshot.type` look one up, and name it as a fault if it is missing.
-/

namespace HeaderCatalog

namespace CursorNode

/-- The declaration's text; the spelling where there is no other. -/
def declarationText (c : CursorNode) : String := c.declarationText?.getD c.spelling

/-- The number of arguments, counted in 32 bits, below zero for what takes none. -/
def argumentCount (c : CursorNode) : Int :=
  match c.argumentCount? with
  | some n => n.toInt
  | none => if c.kind.isCallable || !c.arguments.isEmpty then (Int32.ofNat c.arguments.length).toInt else -1

/-- The name of the method that reads the property. -/
def getter (c : CursorNode) : String := c.getter?.getD c.spelling

/-- The customary name of the method that writes a property: `set`, the name with a large first letter, a colon. -/
def customarySetter (property : String) : String :=
  match property.toList with
  | [] => ""
  | first :: rest => String.ofList ("set".toList ++ Text.upper first ++ rest ++ [':'])

/-- The name of the method that writes the property. -/
def setter (c : CursorNode) : String := c.setter?.getD (customarySetter c.spelling)

/-- The attributes that are set. -/
def flags (c : CursorNode) : List PropertyFlag := PropertyFlag.all.filter (·.isIn c.propertyBits)

/-- The cursor that defines what the cursor at the given position stands for. -/
def definedBy? (c : CursorNode) (self : CursorId) : Option CursorId :=
  c.definition?.or (if c.isDefinition then some self else none)

end CursorNode

namespace TypeNode

/-- The canonical form of the type at the given position. -/
def canonical (t : TypeNode) (self : TypeId) : TypeId := t.canonical?.getD self

/-- The number of arguments, counted in 32 bits, below zero for what is no function. -/
def argumentCount (t : TypeNode) : Int :=
  match t.arguments? with
  | some ids => (Int32.ofNat ids.length).toInt
  | none => -1

/-- The type of an argument. -/
def argument? (t : TypeNode) (i : Nat) : Option TypeId := (t.arguments?.getD [])[i]?

end TypeNode

namespace Snapshot

/-- The cursor at a position, which must exist. -/
def cursor (s : Snapshot) (id : CursorId) : Except Fault CursorNode :=
  match s.cursor? id with
  | some c => .ok c
  | none => .error (.noCursor id)

/-- The type at a position, which must exist. -/
def type (s : Snapshot) (id : TypeId) : Except Fault TypeNode :=
  match s.type? id with
  | some t => .ok t
  | none => .error (.noType id)

/-- The file of the cursor at a position, if there is a position and the cursor has a file. -/
def fileOf? (s : Snapshot) : Option CursorId → Except Fault (Option String)
  | none => return none
  | some id => return (← s.cursor id).file?

end Snapshot

end HeaderCatalog
