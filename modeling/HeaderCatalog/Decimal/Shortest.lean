import HeaderCatalog.Decimal.Binary64

/-!
# Shortest decimal text

The fewest decimal digits that read back as a given magnitude, and of those the nearest to it. `Binary64.shortest`
finds them on the decimal grids of 1, 2, … 17 digits: the first grid with a point in the interval that rounds to the
magnitude gives the digits, and a point of a grid lies in that interval only if one of the magnitude's two neighbours
on the grid does. `Layout.render` sets the point or the exponent.
-/

namespace HeaderCatalog.Decimal

/-- Decimal digits with the power of ten of the last one: `digits · 10 ^ scale`. -/
structure Scaled where
  digits : Nat
  scale : Int
deriving DecidableEq, Repr

/-- The same decimal without the zeros at its end, of which at most `steps` are removed. -/
def Scaled.reduce (x : Scaled) : Nat → Scaled
  | 0 => x
  | steps + 1 => if x.digits % 10 == 0 then Scaled.reduce ⟨x.digits / 10, x.scale + 1⟩ steps else x

namespace Binary64

/-- Numerators, over one denominator, of the least and greatest real that round to a magnitude, and of itself. -/
def bounds (x : Binary64) : (Nat × Nat × Nat) × Nat :=
  let below := if x.mantissa = Nat.pow 2 52 && minExponent < x.exponent then 1 else 2
  let up := Nat.pow 2 (x.exponent - 2).toNat
  (((4 * x.mantissa - below) * up, (4 * x.mantissa + 2) * up, 4 * x.mantissa * up), Nat.pow 2 (2 - x.exponent).toNat)

/-- The power of ten of the first digit of `num / den`, searched downwards from 0 for at most `steps` steps. -/
def leadingPower (num den : Nat) : Nat → Int
  | 0 => 0
  | steps + 1 =>
    if den ≤ num then ((Nat.toDigits 10 (num / den)).length : Int) - 1 else leadingPower (num * 10) den steps - 1

/-- The point of the grid of step `10 ^ scale` nearest to the magnitude, if it reads back. -/
def onGrid? (x : Binary64) (scale : Int) : Option Scaled :=
  let ((lo, hi, v), den) := x.bounds
  let up := Nat.pow 10 (-scale).toNat
  let step := den * Nat.pow 10 scale.toNat
  let q := v * up / step
  let closed := x.mantissa % 2 == 0
  let lowFits := if closed then lo * up ≤ q * step else lo * up < q * step
  let highFits := if closed then (q + 1) * step ≤ hi * up else (q + 1) * step < hi * up
  let lowNearer := 2 * (v * up - q * step) < step || (2 * (v * up - q * step) == step && q % 2 == 0)
  if lowFits && (lowNearer || !highFits) then some ⟨q, scale⟩
  else if highFits then some ⟨q + 1, scale⟩
  else none

/-- The fewest digits that read back. -/
def shortest (x : Binary64) : Scaled :=
  if x.mantissa = 0 then ⟨0, 0⟩
  else
    let ((_, _, v), den) := x.bounds
    let top := leadingPower v den 400
    (((List.range 17).findSome? fun (n : Nat) => x.onGrid? (top - n)).getD ⟨0, 0⟩).reduce 17

end Binary64

/-- How a decimal is set: positional while its first digit's power of ten lies between `least` and `greatest`, else
with an exponent of at least `exponentDigits` digits. -/
structure Layout where
  least : Int
  greatest : Int
  exponentDigits : Nat

/-- The text of `digits · 10 ^ scale`, always with a point or an exponent. -/
def Layout.render (layout : Layout) (x : Scaled) : List Char :=
  let ds := Nat.toDigits 10 x.digits
  let power := x.scale + ds.length - 1
  if layout.least ≤ power && power ≤ layout.greatest then
    if 0 ≤ x.scale then ds ++ List.replicate x.scale.toNat '0' ++ ['.', '0']
    else if 0 ≤ power then ds.take (power.toNat + 1) ++ '.' :: ds.drop (power.toNat + 1)
    else ['0', '.'] ++ List.replicate (-power - 1).toNat '0' ++ ds
  else
    let e := Nat.toDigits 10 power.natAbs
    let fraction := if ds.length ≤ 1 then [] else '.' :: ds.drop 1
    ds.take 1 ++ fraction ++ ['e', if power < 0 then '-' else '+'] ++
      List.replicate (layout.exponentDigits - e.length) '0' ++ e

end HeaderCatalog.Decimal
