import HeaderCatalog.Availability.Basic
import HeaderCatalog.TypeInfo.Basic

/-!
# Declarations

The records of a catalogue: classes with their properties and methods, each with the notes on its availability.
-/

namespace HeaderCatalog

/-- A parameter of a method. -/
structure Parameter where
  name : String
  type : TypeInfo
  declarationText : String

/-- What stands for a parameter that is counted but not known. -/
def Parameter.unknown : Parameter := ⟨"", .invalid, ""⟩

/-- A method. -/
structure Method where
  name : String
  parameters : List Parameter
  result : TypeInfo
  declarationText : String
  notes : List PlatformNote

/-- A property. -/
structure Property where
  name : String
  type : TypeInfo
  getter : String
  setter : String
  isClassLevel : Bool
  isReadonly : Bool
  isNonatomic : Bool
  isWeak : Bool
  notes : List PlatformNote

/-- A class that is named, and the file that declares it. -/
structure ClassReference where
  name : String
  file : String
deriving DecidableEq, Repr

/-- A class. -/
structure Interface where
  name : String
  file : String
  superclass? : Option ClassReference
  protocols : List String
  properties : List Property
  instanceMethods : List Method
  classMethods : List Method
  notes : List PlatformNote
  header : String

/-- How many properties and methods a class has. -/
def Interface.memberCount (i : Interface) : Nat :=
  i.properties.length + i.instanceMethods.length + i.classMethods.length

/-- The classes of a framework, or of all of them, as far as a platform has them. -/
structure Catalog where
  framework? : Option String
  platform : String
  interfaces : List Interface

end HeaderCatalog
