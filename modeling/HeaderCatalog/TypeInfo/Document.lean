import HeaderCatalog.Json.Schema
import HeaderCatalog.TypeInfo.Basic

/-!
# Types as documents

Types lie in one another, and so do their documents. A document is read as deep as the nesting allowance goes, which
bounds the recursion of the reader.
-/

namespace HeaderCatalog

namespace TypeInfo

mutual

/-- A type as a document. -/
def toJson : TypeInfo → Json
  | ⟨name, file?, kind, nullability, canonical, canonicalKind, size?, alignment?, element?, pointee?, arraySize?,
      block?⟩ => .record [
    ("name", some (.string name)),
    ("file", file?.map .string),
    ("kind", some (.string kind)),
    ("nullable", some nullability.toJson),
    ("canonical", some (.string canonical)),
    ("canonicalKind", some (.string canonicalKind)),
    ("size", size?.map fun n => .nat n.toNat),
    ("alignment", alignment?.map fun n => .nat n.toNat),
    ("elementType", toJson? element?),
    ("pointeeType", toJson? pointee?),
    ("arraySize", arraySize?.map fun n => .nat n.toNat),
    ("block", blockToJson? block?)]

/-- The document of a type, if there is one. -/
def toJson? : Option TypeInfo → Option Json
  | none => none
  | some t => some (toJson t)

/-- The document of a block's signature, if there is one. -/
def blockToJson? : Option (BlockSignature TypeInfo) → Option Json
  | none => none
  | some block => some (blockToJson block)

/-- The signature of a block as a document. -/
def blockToJson : BlockSignature TypeInfo → Json
  | ⟨returnType?, parameters⟩ => .record [
    ("returnType", toJson? returnType?),
    ("parameters", some (.array (listToJson parameters)))]

/-- Types as documents. -/
def listToJson : List TypeInfo → List Json
  | [] => []
  | t :: ts => toJson t :: listToJson ts

end

/-- How the signature of a block is read, given how types are. -/
def blockSchema (type : Json.Reader TypeInfo) : Json.Schema (BlockSignature TypeInfo) where
  label := "BlockSignature"
  blank := ⟨none, []⟩
  fields := [
    .optional "returnType" type fun v b => { b with returnType? := v },
    .required "parameters" (.list type) fun v b => { b with parameters := v }]

/-- How a type is read, given how the types within it are. -/
def schema (type : Json.Reader TypeInfo) : Json.Schema TypeInfo where
  label := "TypeMetadata"
  blank := invalid
  fields := [
    .required "name" .text fun v t => { t with name := v },
    .optional "file" .text fun v t => { t with file? := v },
    .required "kind" .text fun v t => { t with kind := v },
    .required "nullable" Nullability.read fun v t => { t with nullability := v },
    .required "canonical" .text fun v t => { t with canonical := v },
    .required "canonicalKind" .text fun v t => { t with canonicalKind := v },
    .optional "size" .uint64 fun v t => { t with size? := v },
    .optional "alignment" .uint64 fun v t => { t with alignment? := v },
    .optional "elementType" type fun v t => { t with element? := v },
    .optional "pointeeType" type fun v t => { t with pointee? := v },
    .optional "arraySize" .uint64 fun v t => { t with arraySize? := v },
    .optional "block" (blockSchema type).read fun v t => { t with block? := v }]

/-- Reads a type within which types lie at most `levels` deep. -/
def readLevels : Nat → Json.Reader TypeInfo
  | 0 => fun _ _ => Json.fail .tooDeep
  | levels + 1 => (schema (readLevels levels)).read

/-- Reads a type. Every type takes one of the levels that are left. -/
def read : Json.Reader TypeInfo := fun n t => readLevels (n + 1) n t

end TypeInfo

end HeaderCatalog
