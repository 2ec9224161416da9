import HeaderCatalog.Declaration.Basic

/-!
# Listings

A listing has one line for each class of a catalogue: its name, its superclass, how many members of each kind it has,
and its file. Names may be set off by colours.
-/

namespace HeaderCatalog.CommandLine

/-- How a text is set off. -/
inductive Style where
  | bold
  | dimmed
  | cyan
deriving DecidableEq, Repr

/-- The code of a style. -/
def Style.code : Style → String
  | bold => "1"
  | dimmed => "2"
  | cyan => "36"

/-- A text that is set off if the output has colours. -/
def Style.show (colored : Bool) (style : Style) (text : String) : String :=
  if colored then "\x1b[" ++ style.code ++ "m" ++ text ++ "\x1b[0m" else text

/-- The name of a class and that of its superclass. -/
def heading (colored : Bool) (i : Interface) : String :=
  Style.bold.show colored i.name ++
    match i.superclass? with
    | none => ""
    | some superclass => " : " ++ Style.cyan.show colored superclass.name

/-- The line of a class. -/
def listingLine (colored : Bool) (i : Interface) : String :=
  heading colored i ++ "  " ++ toString i.properties.length ++ " properties, " ++
    toString i.instanceMethods.length ++ " instance methods, " ++ toString i.classMethods.length ++
    " class methods  " ++ Style.dimmed.show colored i.file

/-- The lines of a catalogue. -/
def listing (colored : Bool) (c : Catalog) : String :=
  String.join (c.interfaces.map fun i => listingLine colored i ++ "\n")

end HeaderCatalog.CommandLine
