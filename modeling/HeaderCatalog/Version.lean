import HeaderCatalog.Json.Reader
import HeaderCatalog.Json.Value
import HeaderCatalog.Text.Blank
import HeaderCatalog.Text.Split

/-!
# Versions

A version has one to three numbers. Missing ones compare as zero, so `1` and `1.0` are the same version (`same`)
though they are written differently. `parse?` reads the written form, `text` writes it.
-/

namespace HeaderCatalog

/-- A version: major number, and perhaps a minor and a subminor one. -/
structure Version where
  major : UInt32
  minor? : Option UInt32
  subminor? : Option UInt32
deriving DecidableEq, Repr

namespace Version

/-! ## Order -/

/-- The three numbers, missing ones as zero. -/
def key (v : Version) : Nat × Nat × Nat :=
  (v.major.toNat, (v.minor?.getD 0).toNat, (v.subminor?.getD 0).toNat)

/-- The order of versions: by the first number that differs. -/
def compare (a b : Version) : Ordering :=
  (Ord.compare a.key.1 b.key.1).then ((Ord.compare a.key.2.1 b.key.2.1).then (Ord.compare a.key.2.2 b.key.2.2))

/-- Equality as versions. -/
def same (a b : Version) : Bool := a.key == b.key

/-- Whether a version is at most another. -/
def atMost (a b : Version) : Bool := (a.compare b).isLE

/-! ## Text -/

/-- The written form of one number. -/
def numberText (n : UInt32) : List Char := Nat.toDigits 10 n.toNat

/-- The written form; a subminor number without a minor one is not written. -/
def chars (v : Version) : List Char :=
  numberText v.major ++
    match v.minor? with
    | none => []
    | some minor =>
      '.' :: numberText minor ++
        match v.subminor? with
        | none => []
        | some subminor => '.' :: numberText subminor

/-- The written form. -/
def text (v : Version) : String := String.ofList v.chars

/-- The value of a run of decimal digits that 32 bits hold. -/
def number? (s : List Char) : Option UInt32 :=
  let n := Nat.ofDigitChars 10 s 0
  if !s.isEmpty && s.all Json.isDigit && n < 4294967296 then some (UInt32.ofNat n) else none

/-- The version of the numbers between the points. -/
def ofNumbers? : List (List Char) → Option Version
  | [a] => return ⟨← number? a, none, none⟩
  | [a, b] => return ⟨← number? a, some (← number? b), none⟩
  | [a, b, c] => return ⟨← number? a, some (← number? b), some (← number? c)⟩
  | _ => none

/-- Reads the written form, with blanks around it. -/
def parse? (s : String) : Option Version :=
  ofNumbers? (Text.splitAt '.' (Text.trim s.toList))

/-- What is said of a text that is no version. -/
def refusal (s : String) : String :=
  "invalid version `" ++ s ++ "` (expected major[.minor[.subminor]])"

/-! ## Documents -/

/-- A version in a document is its written form. -/
def toJson (v : Version) : Json := .string v.text

/-- Reads a version from a document. -/
def read : Json.Reader Version :=
  Json.Reader.refined fun s =>
    match parse? s with
    | some v => .ok v
    | none => .error (.refused (refusal s))

end Version

end HeaderCatalog
