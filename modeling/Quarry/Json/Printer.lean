import Quarry.Binary64.Shortest
import Quarry.Json

/-!
# JSON text

The compact text of a JSON value: no blanks, members in their order, only the characters escaped
that have to be, and numbers in the fewest digits that read back. A number with a fraction or an
exponent always shows one of the two, so that it cannot be taken for an integer.
-/

namespace Quarry.Json

/-- Positional digits are used by `realText` up to this power of ten of the first digit. -/
def maxPositionalExponent : Int := 15

/-- Positional digits are used by `realText` from this power of ten of the first digit on. -/
def minPositionalExponent : Int := -5

/-- The text of the number `x`, which is finite. A tie between two shortest decimals goes to the
even one. -/
def realText (x : Binary64) : String :=
  let d := x.shortest .toEven
  let sign := if x.isNegative then "-" else ""
  if d.leadingExponent < minPositionalExponent ∨ maxPositionalExponent < d.leadingExponent then
    sign ++ d.scientific
  else if d.exponent < 0 then sign ++ d.positional
  else sign ++ d.positional ++ ".0"

/-- The text of a number. -/
def numberText : JsonNumber → String
  | .integer n _ _ => toString n
  | .real x _ => realText x

/-- The number `n`, which is below sixteen, as a hexadecimal digit. -/
def escapeDigit (n : Nat) : Char :=
  if n < 10 then Char.ofNat ('0'.toNat + n) else Char.ofNat ('a'.toNat + (n - 10))

/-- The character `c` as it stands between the quotes of a JSON text. -/
def escapeChar (c : Char) : List Char :=
  if c = '"' then ['\\', '"']
  else if c = '\\' then ['\\', '\\']
  else if c = '\n' then ['\\', 'n']
  else if c = '\r' then ['\\', 'r']
  else if c = '\t' then ['\\', 't']
  else if c = '\x08' then ['\\', 'b']
  else if c = '\x0c' then ['\\', 'f']
  else if c.toNat < 0x20 then
    ['\\', 'u', '0', '0', escapeDigit (c.toNat / 16), escapeDigit (c.toNat % 16)]
  else [c]

/-- The text `s` between quotes, with its characters escaped (`escapeChar`). -/
def stringText (s : String) : String :=
  "\"" ++ String.ofList (s.toList.flatMap escapeChar) ++ "\""

mutual

/-- The compact text of a value. -/
def render : Json → String
  | .null => "null"
  | .bool true => "true"
  | .bool false => "false"
  | .number n => numberText n
  | .string s => stringText s
  | .array items => "[" ++ String.intercalate "," (renderItems items) ++ "]"
  | .object members => "\x7b" ++ String.intercalate "," (renderMembers members) ++ "\x7d"

/-- The texts of the values of a list. -/
def renderItems : List Json → List String
  | [] => []
  | j :: js => render j :: renderItems js

/-- The texts of the members of an object. -/
def renderMembers : List (String × Json) → List String
  | [] => []
  | (k, v) :: ms => (stringText k ++ ":" ++ render v) :: renderMembers ms

end

end Quarry.Json
