/-!
# Numbers of limited size

The size of a number is limited by a power of two. Powers are those of the core library, also for who
has other ones at hand: a power that occurs in a definition is the same wherever the definition is
used.

In a text, a natural number is written with digits and an optional plus sign. Reading stops at the
first character at which something is wrong: either it is no digit, or the number that ends with it
is too large.
-/

attribute [instance (high), default_instance 20000] instPowNat

namespace Quarry.Text

/-- Why a text is not a number. -/
inductive UnsignedError where
  | empty
  | invalidDigit
  | tooLarge
deriving DecidableEq, Repr

/-- The text of an `UnsignedError`. -/
def UnsignedError.message : UnsignedError → String
  | .empty => "cannot parse integer from empty string"
  | .invalidDigit => "invalid digit found in string"
  | .tooLarge => "number too large to fit in target type"

/-- Reads digits after a number that was read already, up to the first one with which the number
does not fit in `bits` bits. -/
def readDigits (bits : Nat) : Nat → List Char → Except UnsignedError Nat
  | n, [] => .ok n
  | n, c :: cs =>
    if ¬ c.isDigit then .error .invalidDigit
    else
      let next := 10 * n + (c.toNat - '0'.toNat)
      if next < 2 ^ bits then readDigits bits next cs else .error .tooLarge

/-- Reads the number `s`, which has to fit in `bits` bits. -/
def readUnsigned (bits : Nat) (s : String) : Except UnsignedError Nat :=
  match s.toList with
  | [] => .error .empty
  | ['+'] => .error .invalidDigit
  | '+' :: cs => readDigits bits 0 cs
  | cs => readDigits bits 0 cs

end Quarry.Text
