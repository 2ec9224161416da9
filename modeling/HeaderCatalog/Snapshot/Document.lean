import HeaderCatalog.Snapshot.Node

/-!
# Snapshots as documents

Nodes are records. Absent parts are left out; all other parts are written, those of a blank node too. A record is read
from a blank node, so that every part but kind and spelling may be left out.
-/

namespace HeaderCatalog

/-- A position as a document. -/
def CursorId.toJson (id : CursorId) : Json := .nat id.toNat

/-- A position as a document. -/
def TypeId.toJson (id : TypeId) : Json := .nat id.toNat

/-- Reads a position. -/
def CursorId.read : Json.Reader CursorId := fun n t => return ⟨← Json.Reader.uint32 n t⟩

/-- Reads a position. -/
def TypeId.read : Json.Reader TypeId := fun n t => return ⟨← Json.Reader.uint32 n t⟩

namespace CursorNode

/-- A cursor as a document. -/
def toJson (c : CursorNode) : Json := .record [
  ("kind", some c.kind.toJson),
  ("spelling", some (.string c.spelling)),
  ("prettyPrinted", c.declarationText?.map .string),
  ("file", c.file?.map .string),
  ("isDefinition", some (.bool c.isDefinition)),
  ("children", some (.array (c.children.map CursorId.toJson))),
  ("type", c.type?.map TypeId.toJson),
  ("resultType", c.resultType?.map TypeId.toJson),
  ("arguments", some (.array (c.arguments.map CursorId.toJson))),
  ("numArguments", c.argumentCount?.map fun n => .int n.toInt),
  ("propertyAttributes", some (.nat c.propertyBits.toNat)),
  ("getter", c.getter?.map .string),
  ("setter", c.setter?.map .string),
  ("availability", some c.availability.toJson),
  ("referenced", c.referenced?.map CursorId.toJson),
  ("definition", c.definition?.map CursorId.toJson)]

/-- How a cursor is read. -/
def schema : Json.Schema CursorNode where
  label := "CursorNode"
  blank := blank .other ""
  fields := [
    .required "kind" CursorKind.read fun v c => { c with kind := v },
    .defaulted "spelling" .text fun v c => { c with spelling := v },
    .optional "prettyPrinted" .text fun v c => { c with declarationText? := v },
    .optional "file" .text fun v c => { c with file? := v },
    .defaulted "isDefinition" .bool fun v c => { c with isDefinition := v },
    .defaulted "children" (.list CursorId.read) fun v c => { c with children := v },
    .optional "type" TypeId.read fun v c => { c with type? := v },
    .optional "resultType" TypeId.read fun v c => { c with resultType? := v },
    .defaulted "arguments" (.list CursorId.read) fun v c => { c with arguments := v },
    .optional "numArguments" .int32 fun v c => { c with argumentCount? := v },
    .defaulted "propertyAttributes" .uint32 fun v c => { c with propertyBits := v },
    .optional "getter" .text fun v c => { c with getter? := v },
    .optional "setter" .text fun v c => { c with setter? := v },
    .defaulted "availability" Availability.schema.read fun v c => { c with availability := v },
    .optional "referenced" CursorId.read fun v c => { c with referenced? := v },
    .optional "definition" CursorId.read fun v c => { c with definition? := v }]

end CursorNode

namespace TypeNode

/-- A type as a document. -/
def toJson (t : TypeNode) : Json := .record [
  ("spelling", some (.string t.spelling)),
  ("kind", some (.string t.kind)),
  ("canonical", t.canonical?.map TypeId.toJson),
  ("nullability", some t.nullability.toJson),
  ("size", some (.int t.size.toInt)),
  ("align", some (.int t.align.toInt)),
  ("element", t.element?.map TypeId.toJson),
  ("arraySize", some (.int t.arraySize.toInt)),
  ("pointee", t.pointee?.map TypeId.toJson),
  ("result", t.result?.map TypeId.toJson),
  ("arguments", t.arguments?.map fun ids => .array (ids.map TypeId.toJson)),
  ("declaration", t.declaration?.map CursorId.toJson)]

/-- How a type is read. -/
def schema : Json.Schema TypeNode where
  label := "TypeNode"
  blank := blank "" ""
  fields := [
    .required "spelling" .text fun v t => { t with spelling := v },
    .required "kind" .text fun v t => { t with kind := v },
    .optional "canonical" TypeId.read fun v t => { t with canonical? := v },
    .defaulted "nullability" Nullability.read fun v t => { t with nullability := v },
    .defaulted "size" .int64 fun v t => { t with size := v },
    .defaulted "align" .int64 fun v t => { t with align := v },
    .optional "element" TypeId.read fun v t => { t with element? := v },
    .defaulted "arraySize" .int64 fun v t => { t with arraySize := v },
    .optional "pointee" TypeId.read fun v t => { t with pointee? := v },
    .optional "result" TypeId.read fun v t => { t with result? := v },
    .optional "arguments" (.list TypeId.read) fun v t => { t with arguments? := v },
    .optional "declaration" CursorId.read fun v t => { t with declaration? := v }]

end TypeNode

namespace Snapshot

/-- A snapshot as a document. -/
def toJson (s : Snapshot) : Json := .record [
  ("root", some s.root.toJson),
  ("cursors", some (.array (s.cursors.toList.map CursorNode.toJson))),
  ("types", some (.array (s.types.toList.map TypeNode.toJson)))]

/-- How a snapshot is read. -/
def schema : Json.Schema Snapshot where
  label := "AstSnapshot"
  blank := blank
  fields := [
    .defaulted "root" CursorId.read fun v s => { s with root := v },
    .defaulted "cursors" (.list CursorNode.schema.read) fun v s => { s with cursors := v.toArray },
    .defaulted "types" (.list TypeNode.schema.read) fun v s => { s with types := v.toArray }]

end Snapshot

end HeaderCatalog
