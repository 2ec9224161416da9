import HeaderCatalog.CommandLine.Report

/-!
# The program

Reads the files that the command line names, runs the command on them, and puts its outcome into effect. Patterns are
looked up among the files whose paths come, one a line, from the standard input.
-/

namespace HeaderCatalog.Program

open CommandLine

/-- The paths that a command names. -/
def namedPaths : Command → List String
  | .nothing => []
  | .extract inputs _ out? _ => inputs.filter (!Glob.isMeant ·) ++ out?.toList
  | .list inputs _ => inputs.filter (!Glob.isMeant ·)

/-- Whether a command names a pattern. -/
def hasPattern : Command → Bool
  | .nothing => false
  | .extract inputs .. | .list inputs _ => inputs.any Glob.isMeant

/-- The path of a place. -/
def pathOf (l : Location) : String := "/" ++ Path.ofPieces l

/-- The tree with what lies at a place on the disk. -/
def survey (t : FileTree) (l : Location) : IO FileTree := do
  if (t.entry? l).isSome then return t
  try return t.put l (.file (← IO.FS.readBinFile (pathOf l)))
  catch
    | .inappropriateType .. => return t.put l .directory
    | .noFileOrDirectory .. => return t
    | e => throw e

/-- The tree with what lies on the way along a path. -/
def surveyPath (t : FileTree) (path : String) : IO FileTree :=
  (Path.places (t.start path) (Path.pieces path)).foldlM survey t

/-- The lines of a stream. -/
partial def lines (input : IO.FS.Stream) : IO (List String) := do
  let line ← input.getLine
  if line.isEmpty then return []
  return (line.dropEndWhile (· == '\n')).toString :: (← lines input)

/-- A change of the tree on the disk. -/
def effect : Location × Entry → IO Unit
  | (l, .directory) => IO.FS.createDirAll (pathOf l)
  | (l, .file content) => IO.FS.writeBinFile (pathOf l) content

end HeaderCatalog.Program

open HeaderCatalog HeaderCatalog.CommandLine HeaderCatalog.Program in
/-- Runs the program. -/
def main (words : List String) : IO UInt32 := do
  match Request.ofWords words with
  | .error refusal =>
    if refusal.exitCode = 0 then IO.println refusal.message else IO.eprintln refusal.message
    return refusal.exitCode.toUInt32
  | .ok request =>
    let stdin ← IO.getStdin
    let stdout ← IO.getStdout
    let listed ← if hasPattern request.command then lines stdin else pure []
    let home := (Path.pieces (toString (← IO.currentDir))).filter (!·.isEmpty)
    let t ← (namedPaths request.command ++ listed).foldlM surveyPath (.empty home)
    let colored := (← stdout.isTty) && (← IO.getEnv "NO_COLOR").isNone
    let outcome := request.command.run colored t
    (t.changes outcome.tree).forM effect
    match outcome.result with
    | .error e =>
      IO.eprintln e.report
      return 1
    | .ok log =>
      (log.filter (·.isShown request.verbosity)).forM fun e => IO.eprintln e.line
      stdout.putStr outcome.stdout
      return 0
