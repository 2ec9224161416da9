import HeaderCatalog.CommandLine.Settings

/-!
# Requests

What a whole command line asks for (`Request.ofWords`). In front of the name of an action stand only the flags that
every action knows; how loud a run is may be said there or behind the name, and what is said behind it counts.
-/

namespace HeaderCatalog.CommandLine

/-- What is to be done. -/
inductive Command where
  /-- write the catalogue of the inputs to a file, or to the standard output if none is named -/
  | extract (inputs : List String) (options : Options) (out? : Option String) (isCompact : Bool)
  /-- list the classes of the catalogue of the inputs -/
  | list (inputs : List String) (options : Options)
  | nothing
deriving DecidableEq, Repr

/-- What a command line asks for. -/
structure Request where
  verbosity : Nat
  command : Command
deriving DecidableEq, Repr

/-- The action of a name. -/
def Action.ofName? : String → Option Action
  | "extract" => some .extract
  | "list" => some .list
  | _ => none

/-- What settings make of an action. -/
def Action.command (s : Settings) : Action → Command
  | .extract => if s.noOp then .nothing else .extract s.inputs s.options s.out? s.compact
  | .list => .list s.inputs s.options

namespace Request

/-- The request of an action, from the words behind its name. -/
def ofAction (verbosity? : Option Nat) (action : Action) (words : List String) : Except Refusal Request := do
  let s ← Settings.blank.read action none words
  if s.inputs.isEmpty then .error .noInput
  else .ok ⟨(s.verbosity?.or verbosity?).getD 0, action.command s⟩

/-- Why a call for help is refused: the words behind `help` name one action, or there is help of its own. -/
def helpRefusal : List String → Refusal
  | [] => .help
  | [name] => if name = "help" ∨ (Action.ofName? name).isSome then .help else .unknownAction
  | _ => .unknownAction

/-- Flags by their letters in front of an action. -/
def readLetters (verbosity? : Option Nat) : List Char → Except Refusal (Option Nat)
  | [] => .ok verbosity?
  | c :: rest =>
    match lettered? none c with
    | none => .error .unknownWord
    | some .help => .error .help
    | some .version => .error .version
    | some _ => readLetters (Settings.louder verbosity?) rest

/-- The flag of a name in front of an action. -/
def readName (verbosity? : Option Nat) (name : String) (value? : Option String) : Except Refusal (Option Nat) :=
  match named? none name with
  | none => .error .unknownWord
  | some flag =>
    if value?.isSome then .error .surplusValue
    else
      match flag with
      | .help => .error .help
      | .version => .error .version
      | _ => .ok (Settings.louder verbosity?)

/-- Why a command line without an action is refused. -/
def actionless (verbosity? : Option Nat) : Refusal := if verbosity?.isSome then .noAction else .nothing

/-- What words ask for, behind flags that say how loud the run is. -/
def read (verbosity? : Option Nat) : List String → Except Refusal Request
  | [] => .error (actionless verbosity?)
  | text :: rest =>
    match Word.ofText text with
    | .separator =>
      match rest with
      | [] => .error (actionless verbosity?)
      | name :: _ =>
        .error (if name = "help" ∨ (Action.ofName? name).isSome then .unknownWord else .unknownAction)
    | .long name value? => do read (← readName verbosity? name value?) rest
    | .cluster letters => do read (← readLetters verbosity? letters) rest
    | .plain =>
      match Action.ofName? text with
      | some action => ofAction verbosity? action rest
      | none => .error (if text = "help" then helpRefusal rest else .unknownAction)

/-- What a command line asks for. -/
def ofWords (words : List String) : Except Refusal Request := read none words

end Request

end HeaderCatalog.CommandLine
