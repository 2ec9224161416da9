import HeaderCatalog.Availability.Basic
import HeaderCatalog.Snapshot.Kind

/-!
# Snapshots

A snapshot is the syntax tree of a header, laid out in two arenas: cursors, which are the places of the tree, and
types. Nodes name one another by their position. Nothing here promises that a position exists; `Snapshot.validate`
decides that.
-/

namespace HeaderCatalog

/-! ## Positions -/

/-- The position of a cursor. -/
structure CursorId where
  index : UInt32
deriving DecidableEq, Repr

/-- The position of a type. -/
structure TypeId where
  index : UInt32
deriving DecidableEq, Repr

/-- A position in words. -/
def positionText (n : Nat) : String := String.ofList ('#' :: Nat.toDigits 10 n)

namespace CursorId

/-- The position as a number. -/
def toNat (id : CursorId) : Nat := id.index.toNat

/-- The cursor at a position. -/
def ofNat (n : Nat) : CursorId := ⟨UInt32.ofNat n⟩

/-- The position in words. -/
def text (id : CursorId) : String := positionText id.toNat

end CursorId

namespace TypeId

/-- The position as a number. -/
def toNat (id : TypeId) : Nat := id.index.toNat

/-- The type at a position. -/
def ofNat (n : Nat) : TypeId := ⟨UInt32.ofNat n⟩

/-- The position in words. -/
def text (id : TypeId) : String := positionText id.toNat

end TypeId

/-! ## Nodes -/

/-- A place of the syntax tree. -/
structure CursorNode where
  kind : CursorKind
  spelling : String
  /-- the declaration's text, where it differs from the spelling -/
  declarationText? : Option String
  file? : Option String
  isDefinition : Bool
  children : List CursorId
  type? : Option TypeId
  resultType? : Option TypeId
  arguments : List CursorId
  /-- the number of arguments, where it differs from that of the listed ones -/
  argumentCount? : Option Int32
  propertyBits : UInt32
  getter? : Option String
  setter? : Option String
  availability : Availability
  referenced? : Option CursorId
  definition? : Option CursorId
deriving DecidableEq, Repr

/-- A cursor of which only kind and spelling are known: a definition without parts. -/
def CursorNode.blank (kind : CursorKind) (spelling : String) : CursorNode where
  kind := kind
  spelling := spelling
  declarationText? := none
  file? := none
  isDefinition := true
  children := []
  type? := none
  resultType? := none
  arguments := []
  argumentCount? := none
  propertyBits := 0
  getter? := none
  setter? := none
  availability := .blank
  referenced? := none
  definition? := none

/-- An occurrence of a type. Sizes below zero are not known. -/
structure TypeNode where
  spelling : String
  kind : String
  /-- the canonical form, where it is another type -/
  canonical? : Option TypeId
  nullability : Nullability
  size : Int64
  align : Int64
  element? : Option TypeId
  arraySize : Int64
  pointee? : Option TypeId
  result? : Option TypeId
  /-- the types of the arguments of a function type -/
  arguments? : Option (List TypeId)
  declaration? : Option CursorId
deriving DecidableEq, Repr

namespace TypeNode

/-- A type of which only spelling and kind are known. -/
def blank (spelling kind : String) : TypeNode where
  spelling := spelling
  kind := kind
  canonical? := none
  nullability := .invalid
  size := -1
  align := -1
  element? := none
  arraySize := -1
  pointee? := none
  result? := none
  arguments? := none
  declaration? := none

/-- A type without parts, aligned to its size. -/
def builtin (spelling kind : String) (size : Int64) : TypeNode :=
  { blank spelling kind with size := size, align := size }

/-- A pointer of eight bytes. -/
def pointer (spelling : String) (pointee : TypeId) : TypeNode :=
  { builtin spelling "Pointer" 8 with pointee? := some pointee }

/-- A pointer to a block with the given signature. -/
def block (spelling : String) (signature : TypeId) : TypeNode :=
  { builtin spelling "BlockPointer" 8 with pointee? := some signature }

/-- The types of which a type is composed, in the order in which they are looked at. -/
def parts (t : TypeNode) : List TypeId :=
  t.element?.toList ++ t.pointee?.toList ++ t.result?.toList ++ t.arguments?.getD []

end TypeNode

/-! ## Snapshots -/

/-- The syntax tree of a header. -/
structure Snapshot where
  root : CursorId
  cursors : Array CursorNode
  types : Array TypeNode
deriving DecidableEq, Repr

namespace Snapshot

/-- The snapshot without nodes. -/
def blank : Snapshot := ⟨.ofNat 0, #[], #[]⟩

/-- The cursor at a position. -/
def cursor? (s : Snapshot) (id : CursorId) : Option CursorNode := s.cursors[id.toNat]?

/-- The type at a position. -/
def type? (s : Snapshot) (id : TypeId) : Option TypeNode := s.types[id.toNat]?

/-- Whether there is a cursor at a position. -/
def hasCursor (s : Snapshot) (id : CursorId) : Bool := id.toNat < s.cursors.size

/-- Whether there is a type at a position. -/
def hasType (s : Snapshot) (id : TypeId) : Bool := id.toNat < s.types.size

/-! ## Building -/

/-- The snapshot with one more cursor, and its position. -/
def pushCursor (s : Snapshot) (node : CursorNode) : CursorId × Snapshot :=
  (.ofNat s.cursors.size, { s with cursors := s.cursors.push node })

/-- The snapshot with one more type, and its position. -/
def pushType (s : Snapshot) (node : TypeNode) : TypeId × Snapshot :=
  (.ofNat s.types.size, { s with types := s.types.push node })

/-- The snapshot with another node for a cursor that exists. -/
def setCursor? (s : Snapshot) (id : CursorId) (node : CursorNode) : Option Snapshot :=
  if h : id.toNat < s.cursors.size then some { s with cursors := s.cursors.set id.toNat node h } else none

/-- The snapshot with one more child of a cursor that exists. The child is taken as it is. -/
def addChild? (s : Snapshot) (parent child : CursorId) : Option Snapshot := do
  let node ← s.cursor? parent
  s.setCursor? parent { node with children := node.children ++ [child] }

end Snapshot

end HeaderCatalog
