import HeaderCatalog.Files.Glob
import HeaderCatalog.Files.Path

/-!
# The paths that match a pattern

A pattern is followed through a tree of files piece by piece. A piece without choice is looked up, one with choices is
compared with the names in the directory, and `**` with everything below it at any depth. The paths come in
alphabetical order, what lies in a directory at the place of the directory.
-/

namespace HeaderCatalog.Glob

variable (t : FileTree) (onlyDirectories : Bool)

/-- The path of a name in the directory at a path; names in `.` stand alone. -/
def child (path name : String) : String := if Path.isHere path then name else Path.enter path name

/-- The way down from the directory at a path. -/
def descend (path : String) (names : Location) : String := names.foldl child path

/-- The paths `..` and `.` of a directory, as far as tokens that begin with a dot match them. -/
def dotPaths (ts : List Token) (path : String) : List String :=
  if ts.head? == some (.char '.') then
    ([['.', '.'], ['.']].filter (accepts ts)).map fun name => Path.enter path (String.ofList name)
  else []

/-- The next path if a piece has no choice. -/
def literalPaths (path name : String) : List String :=
  let next := child path name
  if if name = "." ∨ name = ".." then (t.directory? path).isSome else t.has next then [next] else []

/-- The next paths if a piece has choices. -/
def chosenPaths (ts : List Token) (path : String) : List String :=
  match t.directory? path with
  | none => []
  | some l => dotPaths ts path ++ ((t.names l).filter fun name => accepts ts name.toList).map (child path)

/-- The next paths for the pattern of a name. -/
def namePaths (ts : List Token) (path : String) : List String :=
  match literal? ts with
  | some name => literalPaths t path (String.ofList name)
  | none => chosenPaths t ts path

mutual

/-- The paths that match pieces, from a path on. -/
def expandFrom : List Piece → String → List String
  | [], path => if onlyDirectories && (t.directory? path).isNone then [] else [path]
  | .name ts :: rest, path => (namePaths t ts path).flatMap (expandFrom rest)
  | .anyDepth :: rest, path =>
    match t.directory? path with
    | none => []
    | some l => (t.below l).flatMap fun names => expandAt rest (names.getLast?.getD "") (descend path names)

/-- The paths that match pieces behind `**`, from a path whose last name is to match the first of them. -/
def expandAt : List Piece → String → String → List String
  | [], _, path => if (t.directory? path).isSome then [path] else []
  | .anyDepth :: rest, name, path => expandAt rest name path
  | .name ts :: rest, name, path => if accepts ts name.toList then expandFrom rest path else []

end

/-- The paths that match a pattern. -/
def expand (g : Glob) : List String := expandFrom t g.onlyDirectories g.pieces (if g.isAbsolute then "/" else ".")

end HeaderCatalog.Glob
