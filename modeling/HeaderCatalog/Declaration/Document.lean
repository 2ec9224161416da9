import HeaderCatalog.Declaration.Basic
import HeaderCatalog.TypeInfo.Document

/-!
# Catalogues as documents

All parts of a record are written, but for an absent superclass or framework. In reading, every part must be present
but those and the protocols.
-/

namespace HeaderCatalog

/-- Notes as a document. -/
def notesToJson (notes : List PlatformNote) : Json := .array (notes.map PlatformNote.toJson)

/-- Reads notes. -/
def readNotes : Json.Reader (List PlatformNote) := .list PlatformNote.schema.read

namespace Parameter

/-- A parameter as a document. -/
def toJson (p : Parameter) : Json := .record [
  ("name", some (.string p.name)),
  ("type", some p.type.toJson),
  ("typeString", some (.string p.declarationText))]

/-- How a parameter is read. -/
def schema : Json.Schema Parameter where
  label := "ParameterDecl"
  blank := unknown
  fields := [
    .required "name" .text fun v p => { p with name := v },
    .required "type" TypeInfo.read fun v p => { p with type := v },
    .required "typeString" .text fun v p => { p with declarationText := v }]

end Parameter

namespace Method

/-- A method as a document. -/
def toJson (m : Method) : Json := .record [
  ("name", some (.string m.name)),
  ("parameters", some (.array (m.parameters.map Parameter.toJson))),
  ("result", some m.result.toJson),
  ("typeString", some (.string m.declarationText)),
  ("availability", some (notesToJson m.notes))]

/-- How a method is read. -/
def schema : Json.Schema Method where
  label := "MethodDecl"
  blank := ⟨"", [], .invalid, "", []⟩
  fields := [
    .required "name" .text fun v m => { m with name := v },
    .required "parameters" (.list Parameter.schema.read) fun v m => { m with parameters := v },
    .required "result" TypeInfo.read fun v m => { m with result := v },
    .required "typeString" .text fun v m => { m with declarationText := v },
    .required "availability" readNotes fun v m => { m with notes := v }]

end Method

namespace Property

/-- A property as a document. -/
def toJson (p : Property) : Json := .record [
  ("name", some (.string p.name)),
  ("type", some p.type.toJson),
  ("getter", some (.string p.getter)),
  ("setter", some (.string p.setter)),
  ("static", some (.bool p.isClassLevel)),
  ("readonly", some (.bool p.isReadonly)),
  ("nonatomic", some (.bool p.isNonatomic)),
  ("weak", some (.bool p.isWeak)),
  ("availability", some (notesToJson p.notes))]

/-- How a property is read. -/
def schema : Json.Schema Property where
  label := "PropertyDecl"
  blank := ⟨"", .invalid, "", "", false, false, false, false, []⟩
  fields := [
    .required "name" .text fun v p => { p with name := v },
    .required "type" TypeInfo.read fun v p => { p with type := v },
    .required "getter" .text fun v p => { p with getter := v },
    .required "setter" .text fun v p => { p with setter := v },
    .required "static" .bool fun v p => { p with isClassLevel := v },
    .required "readonly" .bool fun v p => { p with isReadonly := v },
    .required "nonatomic" .bool fun v p => { p with isNonatomic := v },
    .required "weak" .bool fun v p => { p with isWeak := v },
    .required "availability" readNotes fun v p => { p with notes := v }]

end Property

namespace ClassReference

/-- A named class as a document. -/
def toJson (c : ClassReference) : Json := .record [
  ("name", some (.string c.name)),
  ("module", some (.string c.file))]

/-- How a named class is read. -/
def schema : Json.Schema ClassReference where
  label := "ClassRef"
  blank := ⟨"", ""⟩
  fields := [
    .required "name" .text fun v c => { c with name := v },
    .required "module" .text fun v c => { c with file := v }]

end ClassReference

namespace Interface

/-- A class as a document. -/
def toJson (i : Interface) : Json := .record [
  ("name", some (.string i.name)),
  ("file", some (.string i.file)),
  ("super", i.superclass?.map ClassReference.toJson),
  ("protocols", some (.array (i.protocols.map .string))),
  ("properties", some (.array (i.properties.map Property.toJson))),
  ("instanceMethods", some (.array (i.instanceMethods.map Method.toJson))),
  ("classMethods", some (.array (i.classMethods.map Method.toJson))),
  ("availability", some (notesToJson i.notes)),
  ("typeString", some (.string i.header))]

/-- How a class is read. -/
def schema : Json.Schema Interface where
  label := "InterfaceDecl"
  blank := ⟨"", "", none, [], [], [], [], [], ""⟩
  fields := [
    .required "name" .text fun v i => { i with name := v },
    .required "file" .text fun v i => { i with file := v },
    .optional "super" ClassReference.schema.read fun v i => { i with superclass? := v },
    .defaulted "protocols" (.list .text) fun v i => { i with protocols := v },
    .required "properties" (.list Property.schema.read) fun v i => { i with properties := v },
    .required "instanceMethods" (.list Method.schema.read) fun v i => { i with instanceMethods := v },
    .required "classMethods" (.list Method.schema.read) fun v i => { i with classMethods := v },
    .required "availability" readNotes fun v i => { i with notes := v },
    .required "typeString" .text fun v i => { i with header := v }]

end Interface

namespace Catalog

/-- A catalogue as a document. -/
def toJson (c : Catalog) : Json := .record [
  ("framework", c.framework?.map .string),
  ("platform", some (.string c.platform)),
  ("interfaces", some (.array (c.interfaces.map Interface.toJson)))]

/-- How a catalogue is read. -/
def schema : Json.Schema Catalog where
  label := "FrameworkMetadata"
  blank := ⟨none, "", []⟩
  fields := [
    .optional "framework" .text fun v c => { c with framework? := v },
    .required "platform" .text fun v c => { c with platform := v },
    .required "interfaces" (.list Interface.schema.read) fun v c => { c with interfaces := v }]

/-- The catalogue that a text stands for. -/
def ofText (s : String) : Except Json.Problem Catalog := schema.read.run s

end Catalog

end HeaderCatalog
