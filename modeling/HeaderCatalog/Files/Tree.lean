/-!
# Trees of files

A tree of files is a list of what lies where, each place once and in alphabetical order of the places, so that a
directory stands before what lies in it. The top is a directory that always exists. `FileTree.put` adds or replaces,
`FileTree.below` lists what lies in a directory at any depth, and `FileTree.changes` what differs from an earlier tree.
-/

namespace HeaderCatalog

/-- A place in a tree of files: the names on the way to it from the top. -/
abbrev Location := List String

/-- Alphabetical order of places, name by name; a directory comes before what lies in it. -/
def Location.before : Location → Location → Bool
  | _, [] => false
  | [], _ :: _ => true
  | a :: as, b :: bs => a < b || (a == b && before as bs)

/-- The way from one place to another that lies below it. -/
def Location.from? : Location → Location → Option Location
  | [], below => some below
  | _ :: _, [] => none
  | a :: as, b :: bs => if a == b then from? as bs else none

/-- What lies at a place. -/
inductive Entry where
  | directory
  | file (content : ByteArray)

/-- Whether two places hold the same. -/
def Entry.same : Entry → Entry → Bool
  | directory, directory => true
  | file a, file b => a.data.toList == b.data.toList
  | _, _ => false

/-- A tree of files, and the place from which relative paths start. -/
structure FileTree where
  entries : List (Location × Entry)
  home : Location

namespace FileTree

/-- A list of entries with one more, in place of what was there. -/
def insertEntry (l : Location) (e : Entry) : List (Location × Entry) → List (Location × Entry)
  | [] => [(l, e)]
  | (k, old) :: rest =>
    if k == l then (l, e) :: rest
    else if l.before k then (l, e) :: (k, old) :: rest
    else (k, old) :: insertEntry l e rest

/-- What lies at a place. -/
def entry? (t : FileTree) : Location → Option Entry
  | [] => some .directory
  | l => t.entries.lookup l

/-- The tree with one more entry, in place of what was there. -/
def put (t : FileTree) (l : Location) (e : Entry) : FileTree := { t with entries := insertEntry l e t.entries }

/-- The tree in which a place and all places above it are directories. -/
def putDirectories (t : FileTree) (l : Location) : FileTree :=
  (List.range l.length).foldl (fun t n => t.put (l.take (n + 1)) .directory) t

/-- The tree with one more file, in directories that are there or arise. -/
def plant (t : FileTree) (l : Location) (content : ByteArray) : FileTree :=
  (t.putDirectories l.dropLast).put l (.file content)

/-- A tree that holds nothing but the way to its starting place. -/
def empty (home : Location) : FileTree := (⟨[], home⟩ : FileTree).putDirectories home

/-- What lies below a place at any depth: the ways from there, a directory before what lies in it. -/
def below (t : FileTree) (l : Location) : List Location :=
  t.entries.filterMap fun (k, _) => (l.from? k).filter (!·.isEmpty)

/-- The names in a directory. -/
def names (t : FileTree) (l : Location) : List String :=
  (t.below l).filterMap fun
    | [name] => some name
    | _ => none

/-- What is new or changed against an earlier tree, directories before what lies in them. -/
def changes (earlier now : FileTree) : List (Location × Entry) :=
  now.entries.filter fun (l, e) => !(earlier.entry? l).any (Entry.same e)

/-- The files below the starting place that are new or changed against an earlier tree: the ways to them, and what
they hold. -/
def written (earlier now : FileTree) : List (Location × ByteArray) :=
  (earlier.changes now).filterMap fun
    | (_, .directory) => none
    | (l, .file content) => (Location.from? now.home l).map (·, content)

end FileTree

end HeaderCatalog
