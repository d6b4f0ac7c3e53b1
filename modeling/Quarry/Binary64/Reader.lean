import Quarry.Binary64.Rounding
import Quarry.Decimal
import Quarry.Text.Blank

/-!
# Reading binary64 numbers from text

A number is written as decimal digits with an optional sign, an optional point and an optional power
of ten, or as one of the words `inf`, `infinity` and `nan` in any case. The result is the binary64
number nearest to what is written, however many digits there are.
-/

namespace Quarry

/-- The value of the decimal digits `cs`. -/
def Decimal.digitsValue (cs : List Char) : Nat :=
  cs.foldl (fun n c => 10 * n + (c.toNat - '0'.toNat)) 0

/-- An optional sign and the text after it; the flag says that the sign was a minus. -/
def Decimal.splitSign : List Char → Bool × List Char
  | '-' :: cs => (true, cs)
  | '+' :: cs => (false, cs)
  | cs => (false, cs)

/-- A power of ten after the letter `e`: an optional sign and at least one digit, and nothing after
them. No text at all is the power zero. -/
def Decimal.readPower? : List Char → Option Int
  | [] => some 0
  | c :: cs =>
    if c = 'e' ∨ c = 'E' then
      let (negative, digits) := splitSign cs
      if digits ≠ [] ∧ digits.all Char.isDigit then
        let n : Int := digitsValue digits
        some (if negative then -n else n)
      else none
    else none

/-- Reads the unsigned decimal number `cs`: digits with a point among them, before or after them,
and an optional power of ten. -/
def Decimal.read? (cs : List Char) : Option Decimal :=
  let whole := cs.takeWhile Char.isDigit
  let rest := cs.dropWhile Char.isDigit
  let (fraction, rest) := match rest with
    | '.' :: r => (r.takeWhile Char.isDigit, r.dropWhile Char.isDigit)
    | r => ([], r)
  if whole = [] ∧ fraction = [] then none
  else (readPower? rest).map fun e => ⟨digitsValue (whole ++ fraction), e - fraction.length⟩

namespace Binary64

/-- The number nearest to `d`, or to its negative. Powers of ten far outside the range of binary64
are settled by the count of digits alone. -/
def ofDecimal (negative : Bool) (d : Decimal) : Binary64 :=
  if d.digits = 0 then ofMagnitude negative 0
  else if 310 < d.leadingExponent then ofMagnitude negative infinityMagnitude
  else if d.leadingExponent < -330 then ofMagnitude negative 0
  else if 0 ≤ d.exponent then nearest negative (d.digits * 10 ^ d.exponent.toNat) 1
  else nearest negative d.digits (10 ^ (-d.exponent).toNat)

/-- Reads a number from `s`: an optional sign, and a word for an infinity or a NaN or a decimal
number (`Decimal.read?`). -/
def read? (s : String) : Option Binary64 :=
  let (negative, body) := Decimal.splitSign s.toList
  let word := body.map Char.toLower
  if word = "inf".toList ∨ word = "infinity".toList then
    some (ofMagnitude negative infinityMagnitude)
  else if word = "nan".toList then some (if negative then nan.neg else nan)
  else (Decimal.read? body).map (ofDecimal negative)

end Binary64

end Quarry
