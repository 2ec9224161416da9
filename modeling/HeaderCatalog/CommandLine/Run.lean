import HeaderCatalog.Catalog.Extract
import HeaderCatalog.CommandLine.Listing
import HeaderCatalog.CommandLine.Request
import HeaderCatalog.Declaration.Document
import HeaderCatalog.Files.Expand
import HeaderCatalog.Snapshot.Load

/-!
# Runs

A run takes a command and a tree of files and has an outcome: text for the standard output, a tree of files, and a log
or an error. All inputs are found, loaded and extracted before anything is put out (`gather`), so that a run with a bad
input puts out nothing.
-/

namespace HeaderCatalog.CommandLine

/-- Why an input pattern leads to no path. -/
inductive PatternError where
  | malformed (pattern : String) (e : GlobError)
  | noMatch (pattern : String)
deriving DecidableEq, Repr

/-- Why a run fails. -/
inductive RunError where
  | pattern (e : PatternError)
  | unreadable (path : String) (e : FileError)
  | rejected (path : String) (e : LoadError)
  | notExtracted (path : String) (e : Failure)
  | notCreated (directory : String) (e : FileError)
  | notWritten (path : String) (e : FileError)
deriving DecidableEq, Repr

/-- The reason in words, from what failed to the deepest cause. -/
def PatternError.chain : PatternError → List String
  | malformed pattern e => ["invalid glob pattern: " ++ pattern, e.message]
  | noMatch pattern => ["glob pattern matched no files: " ++ pattern]

/-- The reason in words and the one below it. -/
def loadChain : LoadError → List String
  | .malformed p => [LoadError.message (.malformed p), p.message]
  | .unsound f => [f.message]

/-- The reason in words, from what failed to the deepest cause. -/
def RunError.chain : RunError → List String
  | pattern e => "failed to resolve input file paths" :: e.chain
  | unreadable path e =>
    ["failed to load snapshot " ++ path, "failed to read snapshot " ++ path ++ ": " ++ e.message, e.message]
  | rejected path e => ("failed to load snapshot " ++ path) :: loadChain e
  | notExtracted path e => ["failed to extract " ++ path, e.message]
  | notCreated directory e => ["failed to create " ++ directory, e.message]
  | notWritten path e => ["failed to write " ++ path, e.message]

/-! ## Inputs -/

/-- The paths that an input stands for: itself, or those that it matches as a pattern. -/
def inputPaths (t : FileTree) (input : String) : Except PatternError (List String) :=
  if Glob.isMeant input then
    match Glob.ofText input with
    | .error e => .error (.malformed input e)
    | .ok g =>
      match g.expand t with
      | [] => .error (.noMatch input)
      | path :: paths => .ok (path :: paths)
  else .ok [input]

/-- The paths that inputs stand for, one input after the other. -/
def resolveInputs (t : FileTree) (inputs : List String) : Except RunError (List String) :=
  ((inputs.mapM (inputPaths t)).map List.flatten).mapError .pattern

/-- The snapshot in the file at a path. -/
def loadSnapshot (t : FileTree) (path : String) : Except RunError Snapshot := do
  let text ← (t.readText path).mapError (.unreadable path)
  (Snapshot.ofText text).mapError (.rejected path)

/-- The catalogue of the snapshot at a path, and its log. -/
def extractFile (t : FileTree) (o : Options) (path : String) : Except RunError (Catalog × List Event) := do
  let s ← loadSnapshot t path
  let (catalog, log) ← (s.extract o).mapError (.notExtracted path)
  return (catalog, .loaded path s.cursors.size s.types.size :: log)

/-- The catalogue of all inputs, and the log of the way to it. -/
def gather (t : FileTree) (o : Options) (inputs : List String) : Except RunError (Catalog × List Event) := do
  let paths ← resolveInputs t inputs
  let parts ← paths.mapM (extractFile t o)
  let catalogs := parts.map Prod.fst
  return (.merge o catalogs, parts.flatMap Prod.snd ++ Catalog.mergeLog catalogs)

/-! ## Output -/

/-- What comes of a run. -/
structure Outcome where
  stdout : String
  tree : FileTree
  /-- the events of a run that succeeds, or why it failed -/
  result : Except RunError (List Event)

/-- The outcome where nothing is put out. -/
def Outcome.silent (t : FileTree) (result : Except RunError (List Event)) : Outcome := ⟨"", t, result⟩

/-- The document of a catalogue. -/
def documentText (isCompact : Bool) (c : Catalog) : String :=
  if isCompact then c.toJson.compactText else c.toJson.prettyText

/-- A text is written to a file, in a directory that is there or arises. -/
def writeFile (t : FileTree) (path text : String) (log : List Event) : Outcome :=
  let parents := Path.parents path
  match t.makeDirectories parents with
  | (t, some e) => .silent t (.error (.notCreated (parents.headD "") e))
  | (t, none) =>
    match t.write path text.toUTF8 with
    | .error e => .silent t (.error (.notWritten path e))
    | .ok written => .silent written (.ok (log ++ [.written path]))

/-- What comes of a command. -/
def Command.run (colored : Bool) (t : FileTree) : Command → Outcome
  | .nothing => .silent t (.ok [])
  | .extract inputs o out? isCompact =>
    match gather t o inputs with
    | .error e => .silent t (.error e)
    | .ok (catalog, log) =>
      let text := documentText isCompact catalog
      match out? with
      | none => ⟨text ++ "\n", t, .ok log⟩
      | some path => writeFile t path text log
  | .list inputs o =>
    match gather t o inputs with
    | .error e => .silent t (.error e)
    | .ok (catalog, log) => ⟨listing colored catalog, t, .ok log⟩

end HeaderCatalog.CommandLine
