import HeaderCatalog.Snapshot.Query
import HeaderCatalog.TypeInfo.Basic

/-!
# Resolving types

An oracle answers questions about types and about the declarations that stand for them, which it knows by handles.
`TypeOracle.resolve` unfolds the handle of a type into a type that stands by itself: the element and the pointee of
the type as it is written, and the signature of a block, which is what a type with a canonical form of the kind of
blocks points to. The unfolding goes at most a given number of levels deep; beyond that it is endless.
-/

namespace HeaderCatalog

/-- What an oracle answers about one type. -/
structure TypeView (τ : Type) where
  spelling : String
  kind : String
  canonical : τ
  nullability : Nullability
  size : Int64
  align : Int64
  element? : Option τ
  arraySize : Int64
  pointee? : Option τ
  result? : Option τ
  argumentCount : Int
  argument? : Nat → Option τ

/-- Answers about types and their declarations. -/
@[ext] structure TypeOracle (τ δ : Type) where
  view : τ → Except Fault (TypeView τ)
  /-- the declaration that a type is of -/
  declaration? : τ → Except Fault (Option δ)
  /-- the definition of what a declaration stands for -/
  definition? : δ → Except Fault (Option δ)
  /-- the file that a declaration stands in -/
  file? : δ → Except Fault (Option String)

/-- The kind of blocks. -/
def blockKind : String := "BlockPointer"

/-- Whether a result of the given canonical kind is none. -/
def isNoResult (kind : String) : Bool := kind == "Void" || kind == "Invalid"

/-- A size, unless it is below zero. -/
def knownSize? (raw : Int64) : Option UInt64 := if raw < 0 then none else some raw.toUInt64

namespace TypeOracle

variable {τ δ : Type} (oracle : TypeOracle τ δ)

/-- The kind of a type's canonical form. -/
def canonicalKind (t : τ) : Except Fault String := do
  return (← oracle.view (← oracle.view t).canonical).kind

/-- The file with the definition of a type's declaration. -/
def definitionFile (t : τ) : Except Fault (Option String) := do
  match ← oracle.declaration? t with
  | none => return none
  | some declaration =>
    match ← oracle.definition? declaration with
    | none => return none
    | some definition => oracle.file? definition

/-- The type that a block gives, which `resolve` unfolds, unless its kind is that of no result. -/
def returnType? (resolve : τ → Except Fault TypeInfo) : Option τ → Except Fault (Option TypeInfo)
  | none => return none
  | some result => do
    if isNoResult (← oracle.canonicalKind result) then return none else some <$> resolve result

/-- The type that a block takes, which `resolve` unfolds; one that is only counted is not known. -/
def parameterType (resolve : τ → Except Fault TypeInfo) : Option τ → Except Fault TypeInfo
  | none => return .invalid
  | some argument => resolve argument

/-- The signature of a block that points to the given type, whose parts `resolve` unfolds. -/
def signature (resolve : τ → Except Fault TypeInfo) (t : τ) : Except Fault (BlockSignature TypeInfo) := do
  let view ← oracle.view t
  let returnType? ← oracle.returnType? resolve view.result?
  let parameters ← (List.range view.argumentCount.toNat).mapM fun i => parameterType resolve (view.argument? i)
  return ⟨returnType?, parameters⟩

/-- The signature of a type of the given canonical kind that points to another, if it is a block. -/
def block? (resolve : τ → Except Fault TypeInfo) (canonicalKind : String) :
    Option τ → Except Fault (Option (BlockSignature TypeInfo))
  | none => return none
  | some pointee =>
    if canonicalKind == blockKind then some <$> oracle.signature resolve pointee else return none

/-- Unfolds a type at most `depth` levels deep. -/
def resolve : Nat → τ → Except Fault TypeInfo
  | 0, _ => .error .endless
  | depth + 1, t => do
    let view ← oracle.view t
    let canonical ← oracle.view view.canonical
    let block? ← oracle.block? (resolve depth) canonical.kind view.pointee?
    let element? ← view.element?.mapM (resolve depth)
    let pointee? ← view.pointee?.mapM (resolve depth)
    let file? ← oracle.definitionFile t
    return {
      name := view.spelling
      file? := file?
      kind := view.kind
      nullability := view.nullability
      canonical := canonical.spelling
      canonicalKind := canonical.kind
      size? := knownSize? view.size
      alignment? := knownSize? view.align
      element? := element?
      pointee? := pointee?
      arraySize? := knownSize? view.arraySize
      block? := block? }

/-- Unfolds a type if there is one. -/
def resolveOrInvalid (depth : Nat) (t? : Option τ) : Except Fault TypeInfo :=
  match t? with
  | some t => oracle.resolve depth t
  | none => .ok .invalid

end TypeOracle

/-- What a type at the given position answers. -/
def TypeNode.view (t : TypeNode) (self : TypeId) : TypeView TypeId where
  spelling := t.spelling
  kind := t.kind
  canonical := t.canonical self
  nullability := t.nullability
  size := t.size
  align := t.align
  element? := t.element?
  arraySize := t.arraySize
  pointee? := t.pointee?
  result? := t.result?
  argumentCount := t.argumentCount
  argument? := t.argument?

namespace Snapshot

/-- What a snapshot answers about its types. -/
def typeOracle (s : Snapshot) : TypeOracle TypeId CursorId where
  view id := return (← s.type id).view id
  declaration? id := return (← s.type id).declaration?
  definition? id := return (← s.cursor id).definedBy? id
  file? id := return (← s.cursor id).file?

/-- Unfolds a type. No path of parts is longer than there are types, unless it runs in a circle. -/
def resolve (s : Snapshot) (id : TypeId) : Except Fault TypeInfo :=
  s.typeOracle.resolve (s.types.size + 1) id

/-- Unfolds a type if there is one. -/
def resolveOrInvalid (s : Snapshot) (id? : Option TypeId) : Except Fault TypeInfo :=
  s.typeOracle.resolveOrInvalid (s.types.size + 1) id?

end Snapshot

end HeaderCatalog
