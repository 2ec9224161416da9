/-!
# The words of a command line

A word is the separator `--`, a long flag, a cluster of letters or plain text, told apart by its first characters
alone (`Word.ofText`).
-/

namespace HeaderCatalog.CommandLine

/-- A word of a command line. -/
inductive Word where
  /-- the end of the flags -/
  | separator
  /-- a flag by its name, perhaps with a value behind `=` -/
  | long (name : String) (value? : Option String)
  /-- flags by their letters; the text behind one that takes a value is the value -/
  | cluster (letters : List Char)
  | plain
deriving DecidableEq, Repr

namespace Word

/-- A long flag and the value behind the first `=` in it. -/
def ofLong (cs : List Char) : Word :=
  match cs.dropWhile (· != '=') with
  | [] => .long (String.ofList cs) none
  | _ :: value => .long (String.ofList (cs.takeWhile (· != '='))) (some (String.ofList value))

/-- The word that a text is. -/
def ofText (text : String) : Word :=
  match text.toList with
  | ['-', '-'] => .separator
  | '-' :: '-' :: rest => ofLong rest
  | '-' :: c :: rest => .cluster (c :: rest)
  | _ => .plain

end Word

end HeaderCatalog.CommandLine
