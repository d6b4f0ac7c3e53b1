import Quarry.Binary64
import Quarry.Decimal

/-!
# The shortest decimal of a binary number

The decimal number with the fewest digits that rounds back to a given binary64 number, and among
those with as few digits the nearest to it. For each count of digits there are at most two
candidates, the neighbours of the number on the grid of decimals with that many digits, so the
search looks at the neighbours for one digit, two digits, and so on; seventeen always suffice. Two
neighbours can be equally near, and formats differ in which of them they take.

All comparisons are exact: both sides are counted in units of `2 ^ (-1076)`, a quarter of the
smallest distance between two numbers, in which the number, the ends of the interval that rounds to
it and the candidates (after clearing a power of ten) are integers.
-/

namespace Quarry.Binary64

/-- Which of two equally near neighbours `neighbour?` takes. -/
inductive TieRule where
  /-- The one farther from zero. -/
  | up
  /-- The one whose last digit is even. -/
  | toEven
deriving DecidableEq, Repr

/-- The numbers that round to a given number, in units of `2 ^ (-1076)`. -/
structure RoundingInterval where
  /-- The number itself. -/
  value : Nat
  /-- The lower end. -/
  low : Nat
  /-- The upper end. -/
  high : Nat
  /-- Whether the ends themselves belong to the interval. -/
  closed : Bool

/-- The interval of the absolute value of `x`, which is finite. Below a power of two the numbers lie
twice as dense, so the interval is shorter on that side; the ends go to the neighbour with the even
fraction. -/
def roundingInterval (x : Binary64) : RoundingInterval :=
  let value := 4 * x.scaledMagnitude
  let below := if x.fraction = 0 ∧ 1 < x.exponentField then x.gap else 2 * x.gap
  { value, low := value - below, high := value + 2 * x.gap, closed := x.fraction % 2 = 0 }

/-- For a candidate `c * 10 ^ s`, the candidate and the factor by which a `RoundingInterval` has to
be scaled to be compared with it: both are multiplied by the same power of ten, so that all are
natural numbers. -/
def scaleCandidate (c : Nat) (s : Int) : Nat × Nat :=
  if 0 ≤ s then (c * 10 ^ s.toNat * 2 ^ 1076, 1) else (c * 2 ^ 1076, 10 ^ (-s).toNat)

/-- The candidate `c * 10 ^ s` lies in the interval `i`. -/
def RoundingInterval.holds (i : RoundingInterval) (c : Nat) (s : Int) : Bool :=
  let (point, factor) := scaleCandidate c s
  if i.closed then i.low * factor ≤ point && point ≤ i.high * factor
  else i.low * factor < point && point < i.high * factor

/-- The exponent of the largest power of ten up to the absolute value of `x`, one of the three next
to the estimate from its power of two. -/
def floorLog10 (x : Binary64) : Int :=
  let reached (t : Int) : Bool :=
    let (point, factor) := scaleCandidate 1 t
    point ≤ 4 * x.scaledMagnitude * factor
  let estimate := Int.fdiv (((x.scaledMagnitude.log2 : Int) - 1074) * 30103) 100000
  if reached (estimate + 1) then estimate + 1
  else if reached estimate then estimate
  else estimate - 1

/-- The nearest of the two neighbours of `x` with `count` digits, the first of which stands for
`10 ^ top`, if one of them rounds to `x`. -/
def neighbour? (tie : TieRule) (x : Binary64) (top : Int) (count : Nat) : Option Decimal :=
  let i := x.roundingInterval
  let s := top - count + 1
  let (unit, factor) := scaleCandidate 1 s
  let c := i.value * factor / unit
  let rest := i.value * factor % unit
  match i.holds c s && c ≠ 0, i.holds (c + 1) s with
  | true, true =>
    if 2 * rest < unit ∨ (2 * rest = unit ∧ tie = .toEven ∧ c % 2 = 0) then some ⟨c, s⟩
    else some ⟨c + 1, s⟩
  | true, false => some ⟨c, s⟩
  | false, true => some ⟨c + 1, s⟩
  | false, false => none

/-- The shortest decimal that rounds to the absolute value of `x`, which is finite. -/
def shortest (tie : TieRule) (x : Binary64) : Decimal :=
  if x.scaledMagnitude = 0 then ⟨0, 0⟩
  else
    let top := x.floorLog10
    match (List.range 17).findSome? fun count => x.neighbour? tie top (count + 1) with
    | some d => d.normalize
    | none => ⟨x.scaledMagnitude, -1074⟩

/-- The number `x` in positional digits: no exponent, and no point without a fraction. A tie goes
up. -/
def positional (x : Binary64) : String :=
  let sign := if x.isNegative then "-" else ""
  if x.isNaN then "NaN"
  else if x.isFinite then sign ++ (x.shortest .up).positional
  else sign ++ "inf"

end Quarry.Binary64
