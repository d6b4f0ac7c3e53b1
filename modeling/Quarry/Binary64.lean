import Quarry.Number

/-!
# Binary floating-point numbers

A number of the IEEE 754 format binary64 is kept as its bit pattern, so that all of its statements
are statements about natural numbers. Every pattern that is not a NaN stands for a multiple of
`2 ^ (-1074)`; that multiple, an integer, is the view through which numbers are compared. The
infinities take their place in it beyond every finite number, so they need no case of their own.

Two orders live here. `partialCompare` is the numeric order, in which the two zeros are equal and a
NaN is comparable to nothing. `totalCompare` is the order of all bit patterns, in which negative
zero lies below zero and the NaNs lie beyond the infinities on the side of their sign.
-/

namespace Quarry

/-- A binary64 number, given by its `bits`. -/
structure Binary64 where
  /-- Sign, eleven bits of exponent and 52 bits of fraction, from the top. -/
  bits : UInt64
deriving DecidableEq, Repr

namespace Binary64

/-- The sign bit of `x` is set. -/
def isNegative (x : Binary64) : Bool :=
  2 ^ 63 ≤ x.bits.toNat

/-- The bits of `x` below the sign bit. -/
def magnitude (x : Binary64) : Nat :=
  x.bits.toNat % 2 ^ 63

/-- The magnitude of the two infinities. -/
def infinityMagnitude : Nat :=
  2047 * 2 ^ 52

/-- The number with `magnitude` as the bits below the sign bit, which is set if `negative`. -/
def ofMagnitude (negative : Bool) (magnitude : Nat) : Binary64 :=
  ⟨UInt64.ofNat ((if negative then 2 ^ 63 else 0) + magnitude)⟩

/-- The eleven bits of the exponent of `x`. -/
def exponentField (x : Binary64) : Nat :=
  x.magnitude / 2 ^ 52

/-- The 52 bits of the fraction of `x`. -/
def fraction (x : Binary64) : Nat :=
  x.magnitude % 2 ^ 52

/-- The pattern stands for no number: its magnitude is above `infinityMagnitude`. -/
def isNaN (x : Binary64) : Bool :=
  infinityMagnitude < x.magnitude

/-- The pattern stands for a number and not for an infinity: its magnitude is below
`infinityMagnitude`. -/
def isFinite (x : Binary64) : Bool :=
  x.magnitude < infinityMagnitude

/-- Positive zero. -/
def zero : Binary64 := ⟨0⟩

/-- Positive infinity. -/
def infinity : Binary64 := ofMagnitude false infinityMagnitude

/-- The quiet NaN without a payload. -/
def nan : Binary64 := ofMagnitude false (infinityMagnitude + 2 ^ 51)

/-- The number `x` with the opposite sign bit. -/
def neg (x : Binary64) : Binary64 :=
  ofMagnitude (!x.isNegative) x.magnitude

/-- The distance from `x` to the next larger magnitude, as a multiple of `2 ^ (-1074)`. -/
def gap (x : Binary64) : Nat :=
  2 ^ (x.exponentField - 1)

/-- The absolute value of `x` as a multiple of `2 ^ (-1074)`. -/
def scaledMagnitude (x : Binary64) : Nat :=
  if x.exponentField = 0 then x.fraction else (2 ^ 52 + x.fraction) * x.gap

/-- The value of `x` as a multiple of `2 ^ (-1074)`. Infinity counts as `2 ^ 1024`. -/
def scaled (x : Binary64) : Int :=
  if x.isNegative then -(x.scaledMagnitude : Int) else x.scaledMagnitude

/-- The numeric order of `x` and `y`: a NaN has none, and the two zeros are equal. -/
def partialCompare (x y : Binary64) : Option Ordering :=
  if x.isNaN || y.isNaN then none else some (compare x.scaled y.scaled)

/-- The place of the bit pattern `x` in the order of all bit patterns, negative ones in front. -/
def totalKey (x : Binary64) : Int :=
  if x.isNegative then -(x.magnitude : Int) - 1 else x.magnitude

/-- The order of all bit patterns, by `totalKey`. -/
def totalCompare (x y : Binary64) : Ordering :=
  compare x.totalKey y.totalKey

end Binary64

end Quarry
