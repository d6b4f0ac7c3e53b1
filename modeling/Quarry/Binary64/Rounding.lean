import Quarry.Binary64

/-!
# Rounding to binary64

The binary64 number nearest to a quotient of natural numbers, where of two equally near numbers the
one with the even fraction is taken. Integers, decimal numbers, products and quotients are all
rounded through this one function.

The bits of the result are an affine function of the rounded significand: a number with exponent
field `e + 1023` and significand `s`, counted in units of `2 ^ (e - 52)`, has the magnitude
`(e + 1022) * 2 ^ 52 + s`. A significand that rounds up to `2 ^ 53` so carries into the exponent on
its own, and the subnormal numbers are those with `e = -1022`.
-/

namespace Quarry.Binary64

/-- The natural number nearest to `num / den`, a half going to the even neighbour. -/
def roundHalfEven (num den : Nat) : Nat :=
  let floor := num / den
  let rest := num % den
  if 2 * rest < den then floor
  else if den < 2 * rest then floor + 1
  else floor + floor % 2

/-- The quotient `num / den` is at least `2 ^ e`. -/
def reaches (num den : Nat) (e : Int) : Bool :=
  if 0 ≤ e then den * 2 ^ e.toNat ≤ num else den ≤ num * 2 ^ (-e).toNat

/-- The exponent of the largest power of two up to `num / den`. -/
def floorLog2 (num den : Nat) : Int :=
  let e : Int := (num.log2 : Int) - den.log2
  if reaches num den e then e else e - 1

/-- The magnitude of the number nearest to `num / den`. -/
def nearestMagnitude (num den : Nat) : Nat :=
  if num = 0 then 0
  else
    let e := max (floorLog2 num den) (-1022)
    let shift := 52 - e
    let significand :=
      if 0 ≤ shift then roundHalfEven (num * 2 ^ shift.toNat) den
      else roundHalfEven num (den * 2 ^ (-shift).toNat)
    min ((e + 1022).toNat * 2 ^ 52 + significand) infinityMagnitude

/-- The number nearest to `num / den`, or its negative. Quotients too large for every finite number
give an infinity. -/
def nearest (negative : Bool) (num den : Nat) : Binary64 :=
  ofMagnitude negative (nearestMagnitude num den)

/-- The number nearest to the integer `n`. -/
def ofInt (n : Int) : Binary64 :=
  nearest (n < 0) n.natAbs 1

/-- The number nearest to the natural number `n`. -/
def ofNat (n : Nat) : Binary64 :=
  nearest false n 1

/-- The rounded product of `x` and `y`, which are finite. -/
def mul (x y : Binary64) : Binary64 :=
  nearest (x.isNegative != y.isNegative) (x.scaledMagnitude * y.scaledMagnitude) (2 ^ 2148)

/-- The rounded quotient of `x` and `y`, which are finite and of which `y` is not zero. -/
def div (x y : Binary64) : Binary64 :=
  nearest (x.isNegative != y.isNegative) x.scaledMagnitude y.scaledMagnitude

/-- The number nearest to `10 ^ n`. -/
def pow10 (n : Nat) : Binary64 :=
  ofNat (10 ^ n)

end Quarry.Binary64
