import HeaderCatalog.Catalog.Log
import HeaderCatalog.Declaration.Basic
import HeaderCatalog.Declaration.Header
import HeaderCatalog.TypeInfo.Resolve

/-!
# From cursors to declarations

Every declaration passes the availability gate before anything else is asked about it (`Snapshot.gated`). A property
or a method is built from its own cursor. A class is built from what its immediate children are, each looked at by
itself (`Snapshot.member`): the list of these members determines the class (`Interface.ofMembers`) and what is
reported about it (`memberLog`).
-/

namespace HeaderCatalog

namespace Snapshot

variable (s : Snapshot) (p : Policy)

/-- Builds a declaration with its notes, if the gate lets it pass. -/
def gated {α : Type} (c : CursorNode) (build : List PlatformNote → Except Fault α) :
    Except Fault (Except Reason α) :=
  match p.check c.availability with
  | .unavailable reason => .ok (.error reason)
  | .available notes => return .ok (← build notes)

/-! ## Properties and methods -/

/-- The property that a cursor stands for. -/
def property (c : CursorNode) : Except Fault (Except Reason Property) :=
  gated p c fun notes => do
    return {
      name := c.spelling
      type := ← s.resolveOrInvalid c.type?
      getter := c.getter
      setter := c.setter
      isClassLevel := PropertyFlag.classLevel.isIn c.propertyBits
      isReadonly := PropertyFlag.readonly.isIn c.propertyBits
      isNonatomic := PropertyFlag.nonatomic.isIn c.propertyBits
      isWeak := PropertyFlag.weak.isIn c.propertyBits
      notes := notes }

/-- The parameter that an argument stands for, or one that is only counted. -/
def parameter (argument? : Option CursorId) : Except Fault Parameter :=
  match argument? with
  | none => .ok .unknown
  | some id => do
    let c ← s.cursor id
    return ⟨c.spelling, ← s.resolveOrInvalid c.type?, c.declarationText⟩

/-- The method that a cursor stands for, with as many parameters as it reports arguments. -/
def method (c : CursorNode) : Except Fault (Except Reason Method) :=
  gated p c fun notes => do
    return {
      name := c.spelling
      parameters := ← (List.range c.argumentCount.toNat).mapM fun i => s.parameter c.arguments[i]?
      result := ← s.resolveOrInvalid c.resultType?
      declarationText := c.declarationText
      notes := notes }

/-! ## Classes -/

/-- The class that a cursor names, with the file of that class, else the cursor's own. -/
def classReference (c : CursorNode) : Except Fault ClassReference := do
  return ⟨c.spelling, ((← s.fileOf? c.referenced?).or c.file?).getD ""⟩

end Snapshot

/-- What a child of a class is to it. -/
inductive Member where
  | superclass (c : ClassReference)
  | protocol (name : String)
  | property (p : Property)
  | instanceMethod (m : Method)
  | classMethod (m : Method)
  /-- a property or method that the gate left out -/
  | skipped (kind : CursorKind) (name : String) (reason : Reason)
  | unrelated

namespace Member

/-- A member that passed the gate, or the trace of one that did not. -/
def ofGate {α : Type} (c : CursorNode) (wrap : α → Member) : Except Reason α → Member
  | .ok a => wrap a
  | .error reason => .skipped c.kind c.spelling reason

/-- The superclass that a member names. -/
def superclass? : Member → Option ClassReference
  | superclass c => some c
  | _ => none

/-- The protocol that a member names. -/
def protocol? : Member → Option String
  | protocol name => some name
  | _ => none

/-- The property that a member is. -/
def property? : Member → Option Property
  | property p => some p
  | _ => none

/-- The method of instances that a member is. -/
def instanceMethod? : Member → Option Method
  | instanceMethod m => some m
  | _ => none

/-- The method of the class that a member is. -/
def classMethod? : Member → Option Method
  | classMethod m => some m
  | _ => none

end Member

/-- The class at a cursor with the given members; of several superclasses the last stands. -/
def Interface.ofMembers (c : CursorNode) (notes : List PlatformNote) (members : List Member) : Interface where
  name := c.spelling
  file := c.file?.getD ""
  superclass? := (members.filterMap Member.superclass?).getLast?
  protocols := members.filterMap Member.protocol?
  properties := members.filterMap Member.property?
  instanceMethods := members.filterMap Member.instanceMethod?
  classMethods := members.filterMap Member.classMethod?
  notes := notes
  header := Declaration.header c.declarationText

/-- The events of the members of a class, behind the superclass that was named last. -/
def memberLog (interface : String) : Option ClassReference → List Member → List Event
  | _, [] => []
  | none, .superclass c :: members => memberLog interface (some c) members
  | some previous, .superclass c :: members =>
    .secondSuperclass interface previous.name :: memberLog interface (some c) members
  | last?, .skipped kind name reason :: members => .skipped kind name reason :: memberLog interface last? members
  | last?, _ :: members => memberLog interface last? members

/-- The event of a class that was built. -/
def Interface.event (i : Interface) : Event :=
  .interface i.name i.properties.length i.instanceMethods.length i.classMethods.length

namespace Snapshot

variable (s : Snapshot) (p : Policy)

/-- What the cursor at a position is to the class whose child it is. -/
def member (id : CursorId) : Except Fault Member := do
  let c ← s.cursor id
  match c.kind with
  | .superclassReference => return .superclass (← s.classReference c)
  | .protocolReference => return .protocol c.spelling
  | .propertyDeclaration => return .ofGate c .property (← s.property p c)
  | .instanceMethodDeclaration => return .ofGate c .instanceMethod (← s.method p c)
  | .classMethodDeclaration => return .ofGate c .classMethod (← s.method p c)
  | _ => return .unrelated

/-- The class that a cursor stands for, and the events of its extraction. -/
def interface (c : CursorNode) : Except Fault (Except Reason (Interface × List Event)) :=
  gated p c fun notes => do
    let members ← c.children.mapM (s.member p)
    let i := Interface.ofMembers c notes members
    return (i, memberLog c.spelling none members ++ [i.event])

end Snapshot

end HeaderCatalog
