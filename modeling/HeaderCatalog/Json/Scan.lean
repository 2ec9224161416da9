import HeaderCatalog.Json.Tree

/-!
# From text to tree

`Tree.ofText` reads the first document of a text; what follows it is left alone. Every function here takes the text
from some point on and answers with what it read and with the rest of the text, which is empty after a break. Values
lie in one another, so the recursion is on a bound on the steps; `Tree.ofText` sets it by the length of the text, as
every step but the first into an array takes a character.
-/

namespace HeaderCatalog.Json

/-- The blanks between the parts of a document. -/
def isSpace (c : Char) : Bool := c = ' ' || c = '\n' || c = '\t' || c = '\r'

/-- The text from its first character on that is no blank. -/
def skipSpace (s : List Char) : List Char := s.dropWhile isSpace

/-! ## Words -/

/-- Compares with the rest of a word. -/
def scanWord (value : Tree) : List Char → List Char → Tree × List Char
  | [], s => (value, s)
  | _ :: _, [] => (.broken .cutWord, [])
  | w :: word, c :: s => if c = w then scanWord value word s else (.broken .misspeltWord, [])

/-! ## Texts -/

/-- The value of a hexadecimal digit. -/
def hexDigit? (c : Char) : Option Nat :=
  if '0' ≤ c && c ≤ '9' then some (c.toNat - '0'.toNat)
  else if 'a' ≤ c && c ≤ 'f' then some (c.toNat - 'a'.toNat + 10)
  else if 'A' ≤ c && c ≤ 'F' then some (c.toNat - 'A'.toNat + 10)
  else none

/-- The value of four hexadecimal digits. -/
def hexDigits? (a b c d : Char) : Option Nat := do
  return (← hexDigit? a) * 0x1000 + (← hexDigit? b) * 0x100 + (← hexDigit? c) * 0x10 + (← hexDigit? d)

/-- How many bytes a text takes. -/
def byteLength (s : List Char) : Nat := s.foldr (fun c size => c.utf8Size + size) 0

/-- The break of a number of a unit whose four digits are not there. -/
def digitsFlaw (s : List Char) : TextFlaw :=
  if byteLength s < 4 then .endOfText else .noDigits

/-- The character of a short escape. -/
def shortEscape? (c : Char) : Option Char :=
  if c = '"' then some '"'
  else if c = '\\' then some '\\'
  else if c = '/' then some '/'
  else if c = 'b' then some '\x08'
  else if c = 'f' then some '\x0c'
  else if c = 'n' then some '\n'
  else if c = 'r' then some '\r'
  else if c = 't' then some '\t'
  else none

/-- A piece in front of the rest of a text. -/
def addPiece (p : Piece) (scanned : Quoted × List Char) : Quoted × List Char :=
  (⟨p :: scanned.1.pieces, scanned.1.flaw?⟩, scanned.2)

/-- A text that breaks off at once. -/
def cutText (flaw : TextFlaw) : Quoted × List Char := (⟨[], some flaw⟩, [])

/-- A text after its opening quote. -/
def scanText : List Char → Quoted × List Char
  | [] => cutText .endOfText
  | c :: s =>
    if c = '"' then (⟨[], none⟩, s)
    else if c = '\\' then
      match s with
      | [] => cutText .endOfText
      | e :: s =>
        if e = 'u' then
          match s with
          | h₁ :: h₂ :: h₃ :: h₄ :: s =>
            match hexDigits? h₁ h₂ h₃ h₄ with
            | some code => addPiece (.unit code) (scanText s)
            | none => cutText (digitsFlaw (h₁ :: h₂ :: h₃ :: h₄ :: s))
          | s => cutText (digitsFlaw s)
        else
          match shortEscape? e with
          | some meant => addPiece (.char meant) (scanText s)
          | none => cutText .unknownEscape
    else if c.toNat < 0x20 then cutText .control
    else addPiece (.char c) (scanText s)

/-! ## Numerals -/

/-- Whether a character is a decimal digit. -/
def isDigit (c : Char) : Bool := '0' ≤ c && c ≤ '9'

/-- The value of a decimal digit. -/
def digit (c : Char) : Fin 10 := Fin.ofNat 10 (c.toNat - '0'.toNat)

/-- A numeral that breaks off before the given text. -/
def cutNumeral (s : List Char) : Tree × List Char := (.broken (.numeral s.isEmpty), [])

/-- The exponent of a numeral, if one follows. -/
def scanExponent (n : Numeral) : List Char → Tree × List Char
  | [] => (.number n, [])
  | c :: s =>
    if c = 'e' || c = 'E' then
      let negative := s.head? == some '-'
      let s := if negative || s.head? == some '+' then s.drop 1 else s
      let digits := s.takeWhile isDigit
      let rest := s.dropWhile isDigit
      if digits.isEmpty then cutNumeral rest
      else
        let e : Int := Nat.ofDigitChars 10 digits 0
        (.number ⟨n.negative, n.whole, n.fraction, some (if negative then -e else e)⟩, rest)
    else (.number n, c :: s)

/-- The fraction of a numeral, if one follows, and its exponent. -/
def scanFraction (n : Numeral) : List Char → Tree × List Char
  | [] => (.number n, [])
  | c :: s =>
    if c = '.' then
      let digits := s.takeWhile isDigit
      let rest := s.dropWhile isDigit
      if digits.isEmpty then cutNumeral rest
      else scanExponent ⟨n.negative, n.whole, digits.map digit, n.exponent⟩ rest
    else scanExponent n (c :: s)

/-- A numeral after its sign. No other digit follows a zero at its beginning. -/
def scanNumeral (negative : Bool) (s : List Char) : Tree × List Char :=
  let digits := s.takeWhile isDigit
  let rest := s.dropWhile isDigit
  if digits.isEmpty then cutNumeral rest
  else if digits.head? == some '0' && 1 < digits.length then (.broken (.numeral false), [])
  else scanFraction ⟨negative, Nat.ofDigitChars 10 digits 0, [], none⟩ rest

/-! ## Values -/

mutual

/-- A value, after blanks. -/
def scanValue : Nat → List Char → Tree × List Char
  | 0, _ => (.broken .absent, [])
  | bound + 1, s =>
    match skipSpace s with
    | [] => (.broken .absent, [])
    | c :: s =>
      if c = 'n' then scanWord .null ['u', 'l', 'l'] s
      else if c = 't' then scanWord (.bool true) ['r', 'u', 'e'] s
      else if c = 'f' then scanWord (.bool false) ['a', 'l', 's', 'e'] s
      else if c = '"' then
        let (value, rest) := scanText s
        (.text value, rest)
      else if c = '-' then scanNumeral true s
      else if isDigit c then scanNumeral false (c :: s)
      else if c = '[' then
        let (items, rest) := scanItems bound true s
        (.array items, rest)
      else if c = '\x7b' then
        let (members, rest) := scanMembers bound true s
        (.object members, rest)
      else (.broken .noValue, [])

/-- The items of an array, from its first or from a later point on. -/
def scanItems : Nat → Bool → List Char → Items × List Char
  | 0, _, _ => (.stop .absent, [])
  | bound + 1, first, s =>
    match skipSpace s with
    | [] => (.stop .absent, [])
    | c :: s =>
      if c = ']' then (.close, s)
      else if first then
        let (value, rest) := scanValue bound (c :: s)
        let (items, rest) := scanItems bound false rest
        (.item value items, rest)
      else if c = ',' then
        match skipSpace s with
        | [] => (.stop .absentAfterComma, [])
        | d :: s =>
          if d = ']' then (.stop .endAfterComma, [])
          else
            let (value, rest) := scanValue bound (d :: s)
            let (items, rest) := scanItems bound false rest
            (.item value items, rest)
      else (.stop .noComma, [])

/-- The members of an object, from its first or from a later point on. -/
def scanMembers : Nat → Bool → List Char → Members × List Char
  | 0, _, _ => (.stop .absent, [])
  | bound + 1, first, s =>
    match skipSpace s with
    | [] => (.stop .absent, [])
    | c :: s =>
      if c = '\x7d' then (.close, s)
      else if first then scanMember bound (c :: s)
      else if c = ',' then
        match skipSpace s with
        | [] => (.stop .absentAfterComma, [])
        | d :: s => if d = '\x7d' then (.stop .endAfterComma, []) else scanMember bound (d :: s)
      else (.stop .noComma, [])

/-- A member, whose key begins the text, and the members after it. -/
def scanMember : Nat → List Char → Members × List Char
  | 0, _ => (.stop .absent, [])
  | _, [] => (.stop .absent, [])
  | bound + 1, c :: s =>
    if c = '"' then
      let (key, rest) := scanText s
      match skipSpace rest with
      | [] => (.keyOnly key true, [])
      | d :: rest =>
        if d = ':' then
          let (value, rest) := scanValue bound rest
          let (members, rest) := scanMembers bound false rest
          (.member key value members, rest)
        else (.keyOnly key false, [])
    else (.noKey (scanValue bound (c :: s)).1, [])

end

/-- The first document of a text, as far as it can be read. -/
def Tree.ofChars (s : List Char) : Tree := (scanValue (2 * s.length + 2) s).1

/-- The first document of a text, as far as it can be read. -/
def Tree.ofText (s : String) : Tree := .ofChars s.toList

end HeaderCatalog.Json
