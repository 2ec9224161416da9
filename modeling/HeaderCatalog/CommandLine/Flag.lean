/-!
# Flags

The flags of the command line: their names and letters, how many values they take, and which action knows them.
-/

namespace HeaderCatalog.CommandLine

/-- A flag. -/
inductive Flag where
  | input
  | platform
  | target
  | framework
  | deprecated
  | out
  | compact
  | noOp
  | verbose
  | help
  | version
deriving DecidableEq, Repr

/-- How many values a flag takes. -/
inductive Arity where
  | none
  | one
  | many
deriving DecidableEq, Repr

/-- What is to be done with the inputs. -/
inductive Action where
  | extract
  | list
deriving DecidableEq, Repr

namespace Flag

/-- How many values a flag takes. -/
def arity : Flag → Arity
  | input => .many
  | platform | target | framework | out => .one
  | deprecated | compact | noOp | verbose | help | version => .none

/-- Whether a flag may be given again. -/
def isRepeatable : Flag → Bool
  | input | verbose => true
  | _ => false

/-- The names of flags. -/
def names : List (String × Flag) := [
  ("input", input), ("platform", platform), ("deployment-target", target), ("framework", framework),
  ("include-deprecated", deprecated), ("out", out), ("compact", compact), ("no-op", noOp), ("verbose", verbose),
  ("help", help), ("version", version)]

/-- The letters of flags. -/
def letters : List (Char × Flag) := [('i', input), ('o', out), ('v', verbose), ('h', help), ('V', version)]

end Flag

/-- Whether a flag is known to an action, or in front of one. -/
def knows : Option Action → Flag → Bool
  | none, f => f = .verbose ∨ f = .help ∨ f = .version
  | some .list, f => f ≠ .version ∧ f ≠ .out ∧ f ≠ .compact ∧ f ≠ .noOp
  | some .extract, f => f ≠ .version

/-- The flag of a name. -/
def named? (action? : Option Action) (name : String) : Option Flag := (Flag.names.lookup name).filter (knows action?)

/-- The flag of a letter. -/
def lettered? (action? : Option Action) (letter : Char) : Option Flag :=
  (Flag.letters.lookup letter).filter (knows action?)

end HeaderCatalog.CommandLine
