import HeaderCatalog.Catalog.Log
import HeaderCatalog.Declaration.Basic
import HeaderCatalog.Options

/-!
# The first class of a name

Of several classes of one name the first stands. `Interface.insertFirst` adds a class to those that stand,
`Interface.firsts` goes through a list in this way, and `Catalog.merge` does so with the classes of several
catalogues. Each class that is passed over gives an event.
-/

namespace HeaderCatalog

namespace Interface

/-- The classes that stand, after one more is met. -/
def insertFirst (kept : List Interface) (i : Interface) : List Interface :=
  if kept.any (·.name == i.name) then kept else kept ++ [i]

/-- The event of a class that is met, if one of its name stands. -/
def duplicateEvents (kept : List Interface) (i : Interface) : List Event :=
  match kept.find? (·.name == i.name) with
  | some first => [.duplicate i.name first.file i.file]
  | none => []

/-- The first class of each name, in the order in which the names appear. -/
def firsts (is : List Interface) : List Interface := is.foldl insertFirst []

/-- The events of going through classes behind those that stand. -/
def firstsLog : List Interface → List Interface → List Event
  | _, [] => []
  | kept, i :: is => duplicateEvents kept i ++ firstsLog (insertFirst kept i) is

end Interface

namespace Catalog

/-- A catalogue of the given classes under the given options. -/
def ofInterfaces (o : Options) (is : List Interface) : Catalog := ⟨o.framework?, o.platform, is⟩

/-- The classes of several catalogues, one catalogue after the other. -/
def allInterfaces (parts : List Catalog) : List Interface := parts.flatMap (·.interfaces)

/-- One catalogue of several. -/
def merge (o : Options) (parts : List Catalog) : Catalog :=
  ofInterfaces o (Interface.firsts (allInterfaces parts))

/-- The events of merging catalogues. -/
def mergeLog (parts : List Catalog) : List Event := Interface.firstsLog [] (allInterfaces parts)

end Catalog

end HeaderCatalog
