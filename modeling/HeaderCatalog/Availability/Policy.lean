import HeaderCatalog.Availability.Basic

/-!
# The availability gate

A policy names a platform and perhaps the oldest version of it that is aimed at. `Policy.reason?` looks for the first
reason to leave a declaration out: the remark that it is nowhere available, then the notes on the platform in order,
then the remark that it is everywhere deprecated. `Policy.check` answers with that reason or with all notes.
-/

namespace HeaderCatalog

/-- What is aimed at: a platform, perhaps a version of it, and whether deprecated declarations are kept. -/
structure Policy where
  platform : String
  target? : Option Version
  keepDeprecated : Bool
deriving DecidableEq, Repr

/-- Why a declaration is left out. -/
inductive Reason where
  | alwaysUnavailable (message? : Option String)
  | markedUnavailable (platform : String)
  | obsoleted (platform : String) (version : Version)
  | notYetIntroduced (platform : String) (version : Version)
  | alwaysDeprecated (message? : Option String)
  | deprecated (platform : String) (version : Version)
deriving DecidableEq, Repr

/-- The outcome of the gate. -/
inductive Verdict where
  | available (notes : List PlatformNote)
  | unavailable (reason : Reason)
deriving DecidableEq, Repr

/-- A reason in words. -/
def Reason.text : Reason → String
  | .alwaysUnavailable (some message) => "unavailable: " ++ message
  | .alwaysUnavailable none => "unavailable"
  | .markedUnavailable platform => "unavailable on " ++ platform
  | .obsoleted platform version => "obsoleted in " ++ platform ++ " " ++ version.text
  | .notYetIntroduced platform version => "introduced in " ++ platform ++ " " ++ version.text
  | .alwaysDeprecated (some message) => "deprecated: " ++ message
  | .alwaysDeprecated none => "deprecated"
  | .deprecated platform version => "deprecated in " ++ platform ++ " " ++ version.text

/-- The small form of an ASCII letter, any other character as it is. -/
def foldCase (c : Char) : Char :=
  if 'A' ≤ c ∧ c ≤ 'Z' then Char.ofNat (c.toNat + 32) else c

/-- Whether two texts differ at most in the case of ASCII letters. -/
def sameUpToCase (a b : String) : Bool :=
  a.toList.map foldCase == b.toList.map foldCase

namespace Policy

/-- Whether a version is reached: always, if no version is aimed at. -/
def reached (p : Policy) (v : Version) : Bool :=
  match p.target? with
  | none => true
  | some target => v.atMost target

/-- Whether a version lies beyond the one aimed at; never, if none is aimed at. -/
def beyond (p : Policy) (v : Version) : Bool :=
  match p.target? with
  | none => false
  | some target => !v.atMost target

/-- Whether a note is on the policy's platform. -/
def concerns (p : Policy) (note : PlatformNote) : Bool := sameUpToCase note.platform p.platform

/-- The reason that a note on the platform gives to leave the declaration out. -/
def noteReason? (p : Policy) (note : PlatformNote) : Option Reason :=
  if note.unavailable then some (.markedUnavailable note.platform)
  else
    ((note.obsoleted?.filter p.reached).map (.obsoleted note.platform)).or
      (((note.introduced?.filter p.beyond).map (.notYetIntroduced note.platform)).or
        (if p.keepDeprecated then none else (note.deprecated?.filter p.reached).map (.deprecated note.platform)))

/-- The first reason to leave a declaration out. -/
def reason? (p : Policy) (a : Availability) : Option Reason :=
  if a.alwaysUnavailable then some (.alwaysUnavailable a.unavailableMessage?)
  else
    ((a.notes.filter p.concerns).findSome? p.noteReason?).or
      (if a.alwaysDeprecated && !p.keepDeprecated then some (.alwaysDeprecated a.deprecatedMessage?) else none)

/-- The gate: all notes, or the first reason to leave the declaration out. -/
def check (p : Policy) (a : Availability) : Verdict :=
  match p.reason? a with
  | some reason => .unavailable reason
  | none => .available a.notes

end Policy

end HeaderCatalog
