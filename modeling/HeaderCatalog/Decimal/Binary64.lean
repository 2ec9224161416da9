/-!
# Magnitudes with 53 binary digits

A finite magnitude of the binary format with 53 digits is `mantissa · 2 ^ exponent`, with the exponent not below -1074.
`ofRatio?` rounds a ratio of natural numbers to the nearest magnitude, a tie going to the even mantissa, and answers
nothing when the ratio is too large for the format. Products and quotients are rounded exactly once (`mul?`, `div?`).
-/

namespace HeaderCatalog.Decimal

/-- A finite magnitude: `mantissa · 2 ^ exponent`. -/
structure Binary64 where
  mantissa : Nat
  exponent : Int
deriving DecidableEq, Repr

namespace Binary64

/-- The least exponent of the format. -/
def minExponent : Int := -1074

/-- The greatest exponent of the format. -/
def maxExponent : Int := 971

/-- The magnitude zero. -/
def zero : Binary64 := ⟨0, minExponent⟩

/-- Numerator and denominator of `m · 2 ^ e`. -/
def ratio (m : Nat) (e : Int) : Nat × Nat :=
  (m * Nat.pow 2 e.toNat, Nat.pow 2 (-e).toNat)

/-- The quotient rounded to the nearest natural number, a tie to the even one. -/
def roundDiv (num den : Nat) : Nat :=
  let q := num / den
  let twice := 2 * (num % den)
  if twice < den then q else if den < twice then q + 1 else q + q % 2

/-- The magnitude nearest to `num / den`, if the format has one that large. -/
def ofRatio? (num den : Nat) : Option Binary64 :=
  if num = 0 then some zero
  else
    let guess := (num.log2 : Int) - den.log2 - 53
    let scaled (e : Int) : Nat × Nat := (num * Nat.pow 2 (-e).toNat, den * Nat.pow 2 e.toNat)
    let low := scaled (max guess minExponent)
    let e := if low.1 / low.2 < Nat.pow 2 53 then max guess minExponent else max guess minExponent + 1
    let m := roundDiv (scaled e).1 (scaled e).2
    let result := if m = Nat.pow 2 53 then ⟨Nat.pow 2 52, e + 1⟩ else ⟨m, e⟩
    if maxExponent < result.exponent then none else some result

/-- The magnitude nearest to a natural number. -/
def ofNat? (n : Nat) : Option Binary64 := ofRatio? n 1

/-- The rounded product. -/
def mul? (a b : Binary64) : Option Binary64 :=
  let r := ratio (a.mantissa * b.mantissa) (a.exponent + b.exponent)
  ofRatio? r.1 r.2

/-- The rounded quotient by a magnitude other than zero. -/
def div? (a b : Binary64) : Option Binary64 :=
  let r := ratio 1 (a.exponent - b.exponent)
  ofRatio? (a.mantissa * r.1) (b.mantissa * r.2)

end Binary64

end HeaderCatalog.Decimal
