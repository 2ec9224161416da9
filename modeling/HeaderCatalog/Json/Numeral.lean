import HeaderCatalog.Decimal.Shortest

/-!
# Numerals

A numeral is the written form of a number: sign, whole part, fraction digits, exponent. `number?` is its value: an
integer where a word of 64 bits holds it, otherwise a magnitude in binary format; a numeral beyond that format has no
value. The magnitude comes from the leading digits that fit a word, scaled once by a power of ten, so it may differ
from the nearest one in its last digit.
-/

namespace HeaderCatalog.Json

open HeaderCatalog.Decimal

/-- A number as it is written; an empty fraction is one that is not written. -/
structure Numeral where
  negative : Bool
  whole : Nat
  fraction : List (Fin 10)
  exponent : Option Int
deriving DecidableEq, Repr

/-- The value of a numeral. -/
inductive Number where
  | integer (value : Int)
  | float (negative : Bool) (magnitude : Binary64)
deriving DecidableEq, Repr

/-- The greatest unsigned number of 64 bits. -/
def maxWord : Nat := 18446744073709551615

namespace Numeral

/-- The numeral of an integer. -/
def ofInt (n : Int) : Numeral := ⟨n < 0, n.natAbs, [], none⟩

/-- The character of a digit. -/
def digitChar (d : Fin 10) : Char := Nat.digitChar d

/-- The text of a numeral. -/
def text (n : Numeral) : List Char :=
  (if n.negative then ['-'] else []) ++ Nat.toDigits 10 n.whole ++
    (if n.fraction.isEmpty then [] else '.' :: n.fraction.map digitChar) ++
    match n.exponent with
    | none => []
    | some e => 'e' :: ((if e < 0 then ['-'] else []) ++ Nat.toDigits 10 e.natAbs)

/-- The longest run of leading digits that fits a word, and how many digits were left out. -/
def leading (whole : Nat) : Nat × Nat :=
  (Nat.toDigits 10 whole).foldl
    (fun (kept, dropped) c =>
      let next := kept * 10 + (c.toNat - '0'.toNat)
      if dropped == 0 && next ≤ maxWord then (next, 0) else (kept, dropped + 1))
    (0, 0)

/-- The fraction digits that fit the word behind `kept`: the longer word and how many digits it took. -/
def extend (kept : Nat) : List (Fin 10) → Nat × Nat
  | [] => (kept, 0)
  | d :: ds =>
    let next := kept * 10 + d
    if next ≤ maxWord then let (all, taken) := extend next ds; (all, taken + 1) else (kept, 0)

/-- The greatest power of ten in one scaling step. -/
def maxPower : Nat := 308

/-- Division by `10 ^ (maxPower · steps + power)`, in steps. -/
def shrink? (power : Nat) : Nat → Binary64 → Option Binary64
  | 0, x => do x.div? (← Binary64.ofNat? (Nat.pow 10 power))
  | steps + 1, x =>
    if x.mantissa = 0 then some x else do shrink? power steps (← x.div? (← Binary64.ofNat? (Nat.pow 10 maxPower)))

/-- A magnitude times a power of ten. -/
def scale? (x : Binary64) (power : Int) : Option Binary64 :=
  if x.mantissa = 0 then some x
  else if power < 0 then
    let steps := (power.natAbs - 1) / maxPower
    shrink? (power.natAbs - maxPower * steps) steps x
  else if maxPower < power.toNat then none
  else do x.mul? (← Binary64.ofNat? (Nat.pow 10 power.toNat))

/-- The value as a magnitude. -/
def magnitude? (n : Numeral) : Option Binary64 := do
  let (kept, dropped) := leading n.whole
  let (all, taken) := extend kept n.fraction
  scale? (← Binary64.ofNat? all) ((dropped : Int) - taken + n.exponent.getD 0)

/-- The value, unless it is too large. An integer is one without fraction and exponent that a word holds, unsigned or,
with a sign, signed and other than zero. -/
def number? (n : Numeral) : Option Number :=
  let plain := n.fraction.isEmpty && n.exponent.isNone
  if plain && !n.negative && n.whole ≤ maxWord then some (.integer n.whole)
  else if plain && n.negative && 0 < n.whole && n.whole ≤ 9223372036854775808 then some (.integer (-n.whole))
  else n.magnitude?.map (.float n.negative)

end Numeral

namespace Number

/-- Floating-point numbers are set positionally from `0.00001` to below ten to the sixteenth. -/
def layout : Layout := ⟨-5, 15, 2⟩

/-- The text of an integer. -/
def intText (n : Int) : String :=
  String.ofList ((if n < 0 then ['-'] else []) ++ Nat.toDigits 10 n.natAbs)

/-- The text of a magnitude with its sign. -/
def floatText (negative : Bool) (x : Binary64) : String :=
  String.ofList ((if negative then ['-'] else []) ++ layout.render x.shortest)

end Number

/-- The value of an integer's numeral is that integer, if a word holds it. -/
theorem Numeral.number?_ofInt {n : Int} (hLow : -9223372036854775808 ≤ n) (hHigh : n < 18446744073709551616) :
    (Numeral.ofInt n).number? = some (.integer n) := by
  unfold Numeral.number? Numeral.ofInt maxWord
  by_cases h : n < 0
  · simp [h, show 0 < n.natAbs by omega, show n.natAbs ≤ 9223372036854775808 by omega,
      Int.ofNat_natAbs_of_nonpos (Int.le_of_lt h)]
  · simp [h, show n.natAbs ≤ 18446744073709551615 by omega, Int.natAbs_of_nonneg (Int.not_lt.mp h)]

end HeaderCatalog.Json
