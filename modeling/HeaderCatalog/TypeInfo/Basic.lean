import HeaderCatalog.Snapshot.Kind

/-!
# Types written out

A type as it stands in a catalogue: by itself, without positions. The types it is composed of lie within it.
-/

namespace HeaderCatalog

/-- What a block takes and gives; nothing is given by a block without a result. -/
structure BlockSignature (τ : Type) where
  returnType? : Option τ
  parameters : List τ

/-- A type with all that it is composed of. Absent sizes are not known. -/
structure TypeInfo where
  name : String
  file? : Option String
  kind : String
  nullability : Nullability
  canonical : String
  canonicalKind : String
  size? : Option UInt64
  alignment? : Option UInt64
  element? : Option TypeInfo
  pointee? : Option TypeInfo
  arraySize? : Option UInt64
  block? : Option (BlockSignature TypeInfo)

/-- What stands for a type about which nothing is known. -/
def TypeInfo.invalid : TypeInfo where
  name := ""
  file? := none
  kind := "Invalid"
  nullability := .invalid
  canonical := ""
  canonicalKind := "Invalid"
  size? := none
  alignment? := none
  element? := none
  pointee? := none
  arraySize? := none
  block? := none

end HeaderCatalog
