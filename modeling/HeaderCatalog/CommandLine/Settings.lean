import HeaderCatalog.CommandLine.Flag
import HeaderCatalog.CommandLine.Word
import HeaderCatalog.Options

/-!
# What the flags of an action say

`Settings.read` goes through the words behind the name of an action. A flag takes effect when its values are complete:
a flag that takes several keeps collecting until the next flag, so each flag settles the one before it.
-/

namespace HeaderCatalog.CommandLine

/-- Why a command line asks for no action: help is wanted, or something is wrong. -/
inductive Refusal where
  | help
  | version
  | nothing
  | noAction
  | unknownAction
  | unknownWord
  | noInput
  /-- a flag lacks its value, or has an empty one that it cannot use -/
  | noValue
  | badVersion
  /-- a flag that stands once is given again -/
  | again
  /-- a flag without values has one -/
  | surplusValue
deriving DecidableEq, Repr

/-- The code with which a refused command line ends. -/
def Refusal.exitCode : Refusal → Nat
  | .help | .version => 0
  | _ => 2

/-- What the flags have said so far. -/
structure Settings where
  inputs : List String
  platform? : Option String
  target? : Option Version
  framework? : Option String
  out? : Option String
  deprecated : Bool
  compact : Bool
  noOp : Bool
  verbosity? : Option Nat

/-- A flag that has been met, and its values so far. -/
structure Pending where
  flag : Flag
  values : List String

namespace Settings

/-- Nothing said. -/
def blank : Settings := ⟨[], none, none, none, none, false, false, false, none⟩

/-- Verbosity one step higher; it ends at 255. -/
def louder (verbosity? : Option Nat) : Option Nat := some (min 255 (verbosity?.getD 0 + 1))

/-- Whether a flag has taken effect. -/
def has (s : Settings) : Flag → Bool
  | .input => !s.inputs.isEmpty
  | .platform => s.platform?.isSome
  | .target => s.target?.isSome
  | .framework => s.framework?.isSome
  | .out => s.out?.isSome
  | .deprecated => s.deprecated
  | .compact => s.compact
  | .noOp => s.noOp
  | .verbose => s.verbosity?.isSome
  | .help => false
  | .version => false

/-- The effect of a flag without values. -/
def switch (s : Settings) : Flag → Except Refusal Settings
  | .deprecated => .ok { s with deprecated := true }
  | .compact => .ok { s with compact := true }
  | .noOp => .ok { s with noOp := true }
  | .verbose => .ok { s with verbosity? := louder s.verbosity? }
  | .help => .error .help
  | .version => .error .version
  | .input | .platform | .target | .framework | .out => .error .noValue

/-- The effect of a flag with its first value and the others. -/
def take (s : Settings) (value : String) (others : List String) : Flag → Except Refusal Settings
  | .input => .ok { s with inputs := s.inputs ++ value :: others }
  | .platform => .ok { s with platform? := some value }
  | .framework => .ok { s with framework? := some value }
  | .target =>
    match Version.parse? value with
    | some v => .ok { s with target? := some v }
    | none => .error .badVersion
  | .out => if value.isEmpty then .error .noValue else .ok { s with out? := some value }
  | .deprecated | .compact | .noOp | .verbose | .help | .version => .error .surplusValue

/-- The effect of a flag with all its values. -/
def apply (s : Settings) (p : Pending) : Except Refusal Settings :=
  if p.flag.arity ≠ .none ∧ p.values = [] then .error .noValue
  else if !p.flag.isRepeatable && s.has p.flag then .error .again
  else
    match p.values with
    | [] => s.switch p.flag
    | value :: others => s.take value others p.flag

/-- The effect of the flag that was met last. -/
def settle (s : Settings) : Option Pending → Except Refusal Settings
  | none => .ok s
  | some p => s.apply p

/-- A flag that is complete: it settles the one before it, then takes effect itself. -/
def complete (s : Settings) (pending? : Option Pending) (p : Pending) :
    Except Refusal (Settings × Option Pending) := do
  return (← (← s.settle pending?).apply p, none)

/-- A flag by its name. -/
def readLong (action : Action) (s : Settings) (pending? : Option Pending) (name : String) (value? : Option String) :
    Except Refusal (Settings × Option Pending) :=
  match named? (some action) name with
  | none => .error .unknownWord
  | some flag =>
    match value? with
    | some value => if flag.arity = .none then .error .surplusValue else s.complete pending? ⟨flag, [value]⟩
    | none =>
      if flag.arity = .none then s.complete pending? ⟨flag, []⟩
      else do return (← s.settle pending?, some ⟨flag, []⟩)

/-- The value that stands right behind the letter of a flag. -/
def attached : List Char → String
  | '=' :: value => String.ofList value
  | value => String.ofList value

/-- Flags by their letters. -/
def readCluster (action : Action) (s : Settings) (pending? : Option Pending) :
    List Char → Except Refusal (Settings × Option Pending)
  | [] => .ok (s, pending?)
  | c :: rest =>
    match lettered? (some action) c with
    | none => .error .unknownWord
    | some flag =>
      if flag.arity = .none then do
        let (s, pending?) ← s.complete pending? ⟨flag, []⟩
        s.readCluster action pending? rest
      else if rest.isEmpty then do return (← s.settle pending?, some ⟨flag, []⟩)
      else s.complete pending? ⟨flag, [attached rest]⟩

/-- A plain word: a value of the flag that was met last, if it takes one more. -/
def readPlain (pending? : Option Pending) (text : String) : Except Refusal Pending :=
  match pending? with
  | some ⟨flag, values⟩ =>
    if flag.arity = .many ∨ values = [] then .ok ⟨flag, values ++ [text]⟩ else .error .unknownWord
  | none => .error .unknownWord

/-- What the words behind the name of an action say. -/
def read (action : Action) (s : Settings) (pending? : Option Pending) : List String → Except Refusal Settings
  | [] => s.settle pending?
  | text :: rest =>
    match Word.ofText text with
    | .separator => if rest.isEmpty then s.settle pending? else .error .unknownWord
    | .long name value? => do
      let (s, pending?) ← s.readLong action pending? name value?
      s.read action pending? rest
    | .cluster letters => do
      let (s, pending?) ← s.readCluster action pending? letters
      s.read action pending? rest
    | .plain => do s.read action (some (← readPlain pending? text)) rest

/-- The options of a run. -/
def options (s : Settings) : Options := ⟨s.platform?.getD "macos", s.target?, s.framework?, s.deprecated⟩

end Settings

end HeaderCatalog.CommandLine
