import HeaderCatalog.Graph.Search
import HeaderCatalog.Snapshot.Node

/-!
# Sound snapshots

A snapshot is sound when every position in it exists and neither the children of cursors nor the parts of types run in
circles. `Snapshot.validate` names the first defect in a fixed order: the root, the cursors one by one, the types one
by one, then circles of children, then circles of parts.
-/

namespace HeaderCatalog

/-! ## Defects -/

/-- A part of a node that names another node. -/
inductive Link where
  | children
  | arguments
  | referenced
  | definition
  | declaration
  | type
  | resultType
  | canonical
  | composition
deriving DecidableEq, Repr

/-- The name of a part. -/
def Link.name : Link → String
  | children => "children"
  | arguments => "arguments"
  | referenced => "referenced"
  | definition => "definition"
  | declaration => "declaration"
  | type => "type"
  | resultType => "resultType"
  | canonical => "canonical"
  | composition => "composition"

/-- The node that a link starts from, by its place in its arena. -/
inductive Holder where
  | cursor (i : Nat)
  | type (i : Nat)
deriving DecidableEq, Repr

/-- A node in words. -/
def Holder.text : Holder → String
  | cursor i => "cursor " ++ positionText i
  | type i => "type " ++ positionText i

/-- What is wrong with a snapshot. -/
inductive Defect where
  | missingRoot (root : CursorId)
  | danglingCursor (holder : Holder) (link : Link) (target : CursorId)
  | danglingType (holder : Holder) (link : Link) (target : TypeId)
  | childCycle (node : CursorId)
  | typeCycle (node : TypeId)
deriving DecidableEq, Repr

/-- A defect in words. -/
def Defect.message : Defect → String
  | .missingRoot root => "root cursor " ++ root.text ++ " does not exist"
  | .danglingCursor holder link target =>
    holder.text ++ " field `" ++ link.name ++ "` points at missing cursor " ++ target.text
  | .danglingType holder link target =>
    holder.text ++ " field `" ++ link.name ++ "` points at missing type " ++ target.text
  | .childCycle node => "cursor " ++ node.text ++ " is its own ancestor"
  | .typeCycle node => "type " ++ node.text ++ " is part of a composition cycle"

/-- A question about a node that is not there, or one without an end. -/
inductive Fault where
  | noCursor (id : CursorId)
  | noType (id : TypeId)
  | endless
deriving DecidableEq, Repr

/-- A fault in words. -/
def Fault.message : Fault → String
  | .noCursor id => "there is no cursor " ++ id.text
  | .noType id => "there is no type " ++ id.text
  | .endless => "the nodes run in circles"

/-- Why nothing can be said about a snapshot: it has a defect, or a question about it failed. -/
inductive Failure where
  | defect (d : Defect)
  | fault (f : Fault)
deriving DecidableEq, Repr

/-- A failure in words. -/
def Failure.message : Failure → String
  | .defect d => d.message
  | .fault f => f.message

/-! ## Links -/

/-- The cursors that a cursor names, in the order in which they are checked. -/
def CursorNode.cursorLinks (c : CursorNode) : List (Link × CursorId) :=
  c.children.map (Link.children, ·) ++ c.arguments.map (Link.arguments, ·) ++
    c.referenced?.toList.map (Link.referenced, ·) ++ c.definition?.toList.map (Link.definition, ·)

/-- The types that a cursor names, in the order in which they are checked. -/
def CursorNode.typeLinks (c : CursorNode) : List (Link × TypeId) :=
  c.type?.toList.map (Link.type, ·) ++ c.resultType?.toList.map (Link.resultType, ·)

/-- The types that a type names, in the order in which they are checked. -/
def TypeNode.typeLinks (t : TypeNode) : List (Link × TypeId) :=
  t.canonical?.toList.map (Link.canonical, ·) ++ t.parts.map (Link.composition, ·)

namespace Snapshot

/-- The first link of a list to a cursor that does not exist. -/
def danglingCursor? (s : Snapshot) (holder : Holder) (links : List (Link × CursorId)) : Option Defect :=
  (links.find? fun l => !s.hasCursor l.2).map fun l => .danglingCursor holder l.1 l.2

/-- The first link of a list to a type that does not exist. -/
def danglingType? (s : Snapshot) (holder : Holder) (links : List (Link × TypeId)) : Option Defect :=
  (links.find? fun l => !s.hasType l.2).map fun l => .danglingType holder l.1 l.2

/-- The first defect of a cursor at the given place. -/
def cursorDefect? (s : Snapshot) (c : CursorNode) (i : Nat) : Option Defect :=
  (s.danglingCursor? (.cursor i) c.cursorLinks).or (s.danglingType? (.cursor i) c.typeLinks)

/-- The first defect of a type at the given place. -/
def typeDefect? (s : Snapshot) (t : TypeNode) (i : Nat) : Option Defect :=
  (s.danglingType? (.type i) t.typeLinks).or
    (s.danglingCursor? (.type i) (t.declaration?.toList.map (Link.declaration, ·)))

/-- The first link that leads nowhere. -/
def dangling? (s : Snapshot) : Option Defect :=
  (if s.hasCursor s.root then none else some (.missingRoot s.root)).or
    ((s.cursors.toList.zipIdx.findSome? fun (c, i) => s.cursorDefect? c i).or
      (s.types.toList.zipIdx.findSome? fun (t, i) => s.typeDefect? t i))

/-- The children of a cursor, by their places. -/
def childEdges (s : Snapshot) (i : Nat) : List Nat :=
  match s.cursors[i]? with
  | some c => c.children.map CursorId.toNat
  | none => []

/-- The parts of a type, by their places. -/
def partEdges (s : Snapshot) (i : Nat) : List Nat :=
  match s.types[i]? with
  | some t => t.parts.map TypeId.toNat
  | none => []

/-- No child cursor reaches itself. -/
def checkChildren (s : Snapshot) : Except Failure Unit :=
  match Graph.findCycle s.cursors.size s.childEdges with
  | .acyclic => .ok ()
  | .cycle i => .error (.defect (.childCycle (.ofNat i)))
  | .outOfRange i => .error (.fault (.noCursor (.ofNat i)))
  | .unfinished => .error (.fault .endless)

/-- No type is composed of itself. -/
def checkParts (s : Snapshot) : Except Failure Unit :=
  match Graph.findCycle s.types.size s.partEdges with
  | .acyclic => .ok ()
  | .cycle i => .error (.defect (.typeCycle (.ofNat i)))
  | .outOfRange i => .error (.fault (.noType (.ofNat i)))
  | .unfinished => .error (.fault .endless)

/-- Checks a snapshot, and names its first defect. -/
def validate (s : Snapshot) : Except Failure Unit :=
  match s.dangling? with
  | some d => .error (.defect d)
  | none => do
    s.checkChildren
    s.checkParts

end Snapshot

end HeaderCatalog
