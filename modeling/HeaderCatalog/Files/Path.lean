import HeaderCatalog.Files.Tree
import HeaderCatalog.Text.Split

/-!
# Paths

A path is a text whose pieces lie between slashes. It is followed piece by piece from the starting place, or from the
top if it begins with a slash: an empty piece and `.` stay, `..` goes up, any other piece goes down, and all of them
need a directory to stand in (`FileTree.follow`). On paths rest reading (`read`), writing (`write`) and the making of
directories (`makeDirectories`).
-/

namespace HeaderCatalog

/-- Why nothing was read or written. -/
inductive FileError where
  | missing
  | exists
  | notDirectory
  | isDirectory
  | notText
deriving DecidableEq, Repr

/-- The reason in words. -/
def FileError.message : FileError → String
  | .missing => "No such file or directory (os error 2)"
  | .exists => "File exists (os error 17)"
  | .notDirectory => "Not a directory (os error 20)"
  | .isDirectory => "Is a directory (os error 21)"
  | .notText => "stream did not contain valid UTF-8"

namespace Path

/-- The pieces of a path. -/
def pieces (path : String) : List String := (Text.splitAt '/' path.toList).map String.ofList

/-- The path of pieces. -/
def ofPieces (ps : List String) : String := String.ofList (Text.join '/' (ps.map String.toList))

/-- Whether a path starts from the top. -/
def isAbsolute (path : String) : Bool := path.toList.head? == some '/'

/-- Whether a piece stays where it is. -/
def stays (piece : String) : Bool := piece == "" || piece == "."

/-- Where a piece leads from a directory. -/
def move (l : Location) (piece : String) : Location :=
  if stays piece then l else if piece = ".." then l.dropLast else l ++ [piece]

/-- The places that pieces lead through. -/
def places (l : Location) : List String → List Location
  | [] => [l]
  | piece :: ps => l :: places (move l piece) ps

/-- Whether a path is another way to write `.`. -/
def isHere (path : String) : Bool :=
  match pieces path with
  | first :: rest => first == "." && rest.all stays
  | [] => false

/-- A path and a name in the directory there. -/
def enter (path name : String) : String :=
  if path.toList.getLast? == some '/' then path ++ name else path ++ "/" ++ name

/-- A path without the pieces that stay at its end, then the paths of the directories above it; given the pieces from
the last to the first. -/
def chain : List String → List String
  | [] => []
  | piece :: above =>
    if stays piece && !above.isEmpty then chain above
    else (if piece :: above = [""] then "/" else ofPieces (piece :: above).reverse) :: chain above

/-- The paths of the directories above the last piece of a path, the nearest first. -/
def parents (path : String) : List String := (chain (pieces path).reverse).drop 1

end Path

namespace FileTree

/-- One piece of a path, from a place that has to be a directory. -/
def step (t : FileTree) (l : Location) (piece : String) : Except FileError Location :=
  match t.entry? l with
  | none => .error .missing
  | some (.file _) => .error .notDirectory
  | some .directory => .ok (Path.move l piece)

/-- The place from which a path starts. -/
def start (t : FileTree) (path : String) : Location := if Path.isAbsolute path then [] else t.home

/-- The place that pieces lead to, whether or not something is there. -/
def follow (t : FileTree) (l : Location) (ps : List String) : Except FileError Location := ps.foldlM t.step l

/-- The place at the end of a path, and what is there. -/
def find (t : FileTree) (path : String) : Except FileError (Location × Entry) :=
  if path.isEmpty then .error .missing
  else do
    let l ← t.follow (t.start path) (Path.pieces path)
    match t.entry? l with
    | none => .error .missing
    | some e => .ok (l, e)

/-- Whether a path leads to something. -/
def has (t : FileTree) (path : String) : Bool := (t.find path).isOk

/-- The place of the directory at the end of a path, if there is one. -/
def directory? (t : FileTree) (path : String) : Option Location :=
  match t.find path with
  | .ok (l, .directory) => some l
  | _ => none

/-- The bytes of the file at the end of a path. -/
def read (t : FileTree) (path : String) : Except FileError ByteArray :=
  match t.find path with
  | .ok (_, .file content) => .ok content
  | .ok (_, .directory) => .error .isDirectory
  | .error e => .error e

/-- The text of the file at the end of a path. -/
def readText (t : FileTree) (path : String) : Except FileError String := do
  match String.fromUTF8? (← t.read path) with
  | some text => .ok text
  | none => .error .notText

/-- The directory that holds the last name of a path, and the name if it is one of its own: `.` and `..` name what
exists elsewhere already. -/
def lastName (t : FileTree) (path : String) : Except FileError (Location × Option String) :=
  if path.isEmpty then .error .missing
  else
    match (Path.pieces path).reverse.dropWhile (·.isEmpty) with
    | [] => .ok ([], none)
    | name :: above => do
      let l ← t.follow (t.start path) (above.reverse ++ [""])
      .ok (l, if name = "." ∨ name = ".." then none else some name)

/-- The tree after a file is written. -/
def write (t : FileTree) (path : String) (content : ByteArray) : Except FileError FileTree := do
  match ← t.lastName path with
  | (_, none) => .error .isDirectory
  | (l, some name) =>
    if path.toList.getLast? = some '/' ∨ (t.entry? (l ++ [name])).any (Entry.same .directory) then .error .isDirectory
    else .ok (t.put (l ++ [name]) (.file content))

/-- The tree after a directory is made in one that exists. -/
def makeDirectory (t : FileTree) (path : String) : Except FileError FileTree := do
  match ← t.lastName path with
  | (_, none) => .error .exists
  | (l, some name) =>
    if (t.entry? (l ++ [name])).isSome then .error .exists else .ok (t.put (l ++ [name]) .directory)

/-- A failed making of a directory does no harm if the directory is there. -/
def unlessThere (t : FileTree) (path : String) (e : FileError) : Option FileError :=
  if (t.directory? path).isSome then none else some e

/-- The tree after a directory is made, together with those above it if they are missing, and what went wrong; given
the path of the directory and then those above it. -/
def makeDirectories (t : FileTree) : List String → FileTree × Option FileError
  | [] => (t, none)
  | path :: above =>
    match t.makeDirectory path with
    | .ok made => (made, none)
    | .error .missing =>
      match t.makeDirectories above with
      | (t, some e) => (t, some e)
      | (t, none) =>
        match t.makeDirectory path with
        | .ok made => (made, none)
        | .error e => (t, t.unlessThere path e)
    | .error e => (t, t.unlessThere path e)

end FileTree

end HeaderCatalog
