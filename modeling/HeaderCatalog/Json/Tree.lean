import HeaderCatalog.Json.Problem

/-!
# Document trees

A text read as far as it is a document. Where the text breaks, the tree ends with what stood there instead, so that a
reader who walks the tree from left to right meets the values before the break first. The same break may be worded in
two ways: by a reader who looks for a value of a certain type, and by one who passes over a value of no interest
(`Tree.flaw?`), who asks less of texts and numbers.
-/

namespace HeaderCatalog.Json

/-! ## Texts -/

/-- A piece of a text: a character as it is or after a backslash, or a unit of 16 bits written by its number. -/
inductive Piece where
  | char (c : Char)
  | unit (code : Nat)
deriving DecidableEq, Repr

/-- How a text breaks off. -/
inductive TextFlaw where
  | endOfText
  | control
  | unknownEscape
  | noDigits
deriving DecidableEq, Repr

/-- A text between quotes: its pieces, and how it breaks off if it does. -/
structure Quoted where
  pieces : List Piece
  flaw? : Option TextFlaw
deriving DecidableEq, Repr

namespace Quoted

/-- The cause that a break in a text gives. -/
def cause : TextFlaw → Cause
  | .endOfText => .endOfText .string
  | .control => .controlCharacter
  | .unknownEscape => .invalidEscape
  | .noDigits => .invalidEscape

/-- The break that is met when the second half of a pair is looked for. -/
def pairCause : Option TextFlaw → Cause
  | some .endOfText => .endOfText .string
  | some .noDigits => .invalidEscape
  | _ => .unpairedSurrogate

/-- The characters that the pieces stand for: two units may make one character, one alone of a pair makes none. -/
def chars (flaw? : Option TextFlaw) : List Piece → Except Cause (List Char)
  | [] =>
    match flaw? with
    | none => .ok []
    | some flaw => .error (cause flaw)
  | .char c :: rest => return c :: (← chars flaw? rest)
  | .unit high :: rest =>
    if high < 0xd800 || 0xdfff < high then return Char.ofNat high :: (← chars flaw? rest)
    else if 0xdc00 ≤ high then .error .loneSurrogate
    else
      match rest with
      | .unit low :: rest =>
        if low < 0xdc00 || 0xdfff < low then .error .loneSurrogate
        else return Char.ofNat (0x10000 + (high - 0xd800) * 0x400 + (low - 0xdc00)) :: (← chars flaw? rest)
      | .char _ :: _ => .error .unpairedSurrogate
      | [] => .error (pairCause flaw?)

/-- The text that is meant. -/
def value (q : Quoted) : Except Cause String := do
  return String.ofList (← chars q.flaw? q.pieces)

end Quoted

/-! ## Trees -/

/-- What stands where a value should be. -/
inductive Flaw where
  /-- nothing, the text ends -/
  | absent
  /-- a character with which no value begins -/
  | noValue
  /-- the beginning of a word, where the text ends -/
  | cutWord
  /-- another word than `null`, `true` and `false` -/
  | misspeltWord
  /-- the beginning of a numeral; whether the text ends in it -/
  | numeral (atEnd : Bool)
deriving DecidableEq, Repr

/-- What stands where an array should go on or end. -/
inductive ItemsFlaw where
  | absent
  | absentAfterComma
  | endAfterComma
  | noComma
deriving DecidableEq, Repr

/-- What stands where an object should go on or end, other than a key. -/
inductive MembersFlaw where
  | absent
  | absentAfterComma
  | endAfterComma
  | noComma
deriving DecidableEq, Repr

mutual

/-- A value, or what stands in its place. -/
inductive Tree where
  | null
  | bool (value : Bool)
  | number (value : Numeral)
  | text (value : Quoted)
  | array (items : Items)
  | object (members : Members)
  | broken (flaw : Flaw)

/-- The items of an array from some point on. -/
inductive Items where
  | close
  | stop (flaw : ItemsFlaw)
  | item (value : Tree) (rest : Items)

/-- The members of an object from some point on. -/
inductive Members where
  | close
  | stop (flaw : MembersFlaw)
  /-- a value that is no text where a key should be -/
  | noKey (found : Tree)
  /-- a key without a colon; whether the text ends there -/
  | keyOnly (key : Quoted) (atEnd : Bool)
  | member (key : Quoted) (value : Tree) (rest : Members)

end

/-- The cause for a reader of a value. -/
def Flaw.cause : Flaw → Cause
  | .absent => .endOfText .value
  | .noValue => .noValue
  | .cutWord => .endOfText .value
  | .misspeltWord => .misspeltWord
  | .numeral atEnd => if atEnd then .endOfText .value else .invalidNumber

/-- The cause for one who passes over the value. -/
def Flaw.passedCause : Flaw → Cause
  | .numeral _ => .invalidNumber
  | flaw => flaw.cause

/-- The cause for a reader of items. -/
def ItemsFlaw.cause : ItemsFlaw → Cause
  | .absent => .endOfText .array
  | .absentAfterComma => .endOfText .value
  | .endAfterComma => .trailingComma
  | .noComma => .noCommaInArray

/-- The cause for one who passes over the items. -/
def ItemsFlaw.passedCause : ItemsFlaw → Cause
  | .endAfterComma => .noValue
  | flaw => flaw.cause

/-- The cause for a reader of members. -/
def MembersFlaw.cause : MembersFlaw → Cause
  | .absent => .endOfText .object
  | .absentAfterComma => .endOfText .value
  | .endAfterComma => .trailingComma
  | .noComma => .noCommaInObject

/-- The cause for one who passes over the members. -/
def MembersFlaw.passedCause : MembersFlaw → Cause
  | .absentAfterComma => .endOfText .object
  | .endAfterComma => .keyNotText
  | flaw => flaw.cause

/-- The cause that a missing colon gives. -/
def colonCause (atEnd : Bool) : Cause :=
  if atEnd then .endOfText .object else .noColon

mutual

/-- The first cause met in passing over a value of no interest: breaks of the text only. -/
def Tree.flaw? : Tree → Option Cause
  | .text value => value.flaw?.map Quoted.cause
  | .array items => items.flaw?
  | .object members => members.flaw?
  | .broken flaw => some flaw.passedCause
  | _ => none

/-- The first cause met in passing over items. -/
def Items.flaw? : Items → Option Cause
  | .close => none
  | .stop flaw => some flaw.passedCause
  | .item value rest => value.flaw?.or rest.flaw?

/-- The first cause met in passing over members. -/
def Members.flaw? : Members → Option Cause
  | .close => none
  | .stop flaw => some flaw.passedCause
  | .noKey _ => some .keyNotText
  | .keyOnly key atEnd => (key.flaw?.map Quoted.cause).or (some (colonCause atEnd))
  | .member key value rest => (key.flaw?.map Quoted.cause).or (value.flaw?.or rest.flaw?)

end

end HeaderCatalog.Json
