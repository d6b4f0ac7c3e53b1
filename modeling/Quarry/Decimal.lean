import Quarry.Number

/-!
# Decimal numbers and their text

A decimal number is an integer of decimal digits together with a power of ten. It is what stands
between a binary number and its text: the digits are chosen first (`Binary64.shortest`), and one of
the two layouts here writes them down. Reading goes the other way.
-/

namespace Quarry

/-- The number `digits * 10 ^ exponent`. -/
structure Decimal where
  /-- The significant digits as one number. -/
  digits : Nat
  /-- The power of ten of the last digit. -/
  exponent : Int
deriving DecidableEq, Repr

namespace Decimal

/-- The decimal digits of `n`. -/
def digitChars (n : Nat) : List Char :=
  Nat.toDigits 10 n

/-- The power of ten of the first digit of `d`. -/
def leadingExponent (d : Decimal) : Int :=
  ((digitChars d.digits).length : Int) - 1 + d.exponent

/-- Moves zeros at the end of the digits into the exponent. The first argument bounds the number of
zeros moved; there are never more of them than digits (`normalize`). -/
def stripZeros : Nat → Decimal → Decimal
  | 0, d => d
  | fuel + 1, d =>
    if d.digits ≠ 0 ∧ d.digits % 10 = 0 then stripZeros fuel ⟨d.digits / 10, d.exponent + 1⟩ else d

/-- The same number as `d` without zeros at the end of its digits. -/
def normalize (d : Decimal) : Decimal :=
  stripZeros (digitChars d.digits).length d

/-- The whole digits and the fraction digits of `d` in the positional layout. -/
def positionalParts (d : Decimal) : List Char × List Char :=
  let cs := digitChars d.digits
  if 0 ≤ d.exponent then (cs ++ List.replicate d.exponent.toNat '0', [])
  else
    let places := (-d.exponent).toNat
    if places < cs.length then (cs.take (cs.length - places), cs.drop (cs.length - places))
    else (['0'], List.replicate (places - cs.length) '0' ++ cs)

/-- The text of `d` with all digits at their places, with a point only in front of a fraction. -/
def positional (d : Decimal) : String :=
  match d.positionalParts with
  | (whole, []) => String.ofList whole
  | (whole, fraction) => String.ofList (whole ++ '.' :: fraction)

/-- The text of `d` with one digit, a point in front of further digits, and the power of ten with
its sign. -/
def scientific (d : Decimal) : String :=
  let e := d.leadingExponent
  let power := (if e < 0 then "e-" else "e+") ++ String.ofList (digitChars e.natAbs)
  match digitChars d.digits with
  | [] => power
  | [c] => String.ofList [c] ++ power
  | c :: cs => String.ofList (c :: '.' :: cs) ++ power

end Decimal

end Quarry
