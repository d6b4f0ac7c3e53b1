import Quarry.Binary64.Reader
import Quarry.Json

/-!
# Reading JSON text

A reader for JSON values. A number without a fraction and an exponent is an integer if it fits in 64
bits and is not negative zero. Every other number is read as its first nineteen or twenty digits, as
many as fit in 64 bits without a sign, and then multiplied or divided once by a power of ten, each
step rounded to binary64. The members of an object end up in the order of their keys, and of two
members with one key the later counts.

The recursion is bounded by the length of the text: every value, item and member uses up at least
one character.
-/

namespace Quarry.Json

/-- Drops the blanks at the front of `cs` that may stand between the tokens. -/
def skipSpace (cs : List Char) : List Char :=
  cs.dropWhile fun c => c = ' ' ∨ c = '\n' ∨ c = '\r' ∨ c = '\t'

/-! ## Numbers -/

/-- The longest start of the digits whose value is less than `2 ^ 64`, as its value, and the digits
that are left. -/
def significand : Nat → List Char → Nat × List Char
  | n, [] => (n, [])
  | n, c :: cs =>
    let next := 10 * n + (c.toNat - '0'.toNat)
    if next < 2 ^ 64 then significand next cs else (n, c :: cs)

/-- Multiplies or divides by a power of ten. The powers of ten of binary64 end at 308, so a number
is first brought near by dividing by the largest of them. None means that the number is too large.
-/
def scaleByPower : Nat → Binary64 → Int → Option Binary64
  | 0, _, _ => none
  | fuel + 1, x, e =>
    if e.natAbs ≤ 308 then
      let scaled :=
        if 0 ≤ e then x.mul (Binary64.pow10 e.toNat) else x.div (Binary64.pow10 e.natAbs)
      if scaled.isFinite then some scaled else none
    else if x.magnitude = 0 then some x
    else if 0 ≤ e then none
    else scaleByPower fuel (x.div (Binary64.pow10 308)) (e + 308)

/-- The finite number with the digits `whole` and `fraction` and the given `power` of ten, or none
if it is too large. -/
def readReal? (negative : Bool) (whole fraction : List Char) (power : Int) : Option JsonNumber :=
  let (n, restWhole) := significand 0 whole
  let (n, restFraction) :=
    if restWhole = [] then significand n fraction else (n, fraction)
  let e := power + restWhole.length - (fraction.length - restFraction.length : Nat)
  let e := if n = 0 then 0 else max e (-100000)
  match scaleByPower 1000 (Binary64.ofNat n) e with
  | some x =>
    let x := if negative then x.neg else x
    if h : x.isFinite = true then some (.real x h) else none
  | none => none

/-- The power of ten at the front of a text, if there is one, and the text after it. -/
def readPower? : List Char → Option (Option Int × List Char)
  | [] => some (none, [])
  | c :: cs =>
    if c = 'e' ∨ c = 'E' then
      let (negative, rest) := Decimal.splitSign cs
      let digits := rest.takeWhile Char.isDigit
      if digits = [] then none
      else
        let n : Int := Decimal.digitsValue digits
        some (some (if negative then -n else n), rest.dropWhile Char.isDigit)
    else some (none, c :: cs)

/-- The fraction digits at the front of a text, if there is a point, and the text after them. -/
def readFraction? : List Char → Option (Option (List Char) × List Char)
  | '.' :: cs =>
    let digits := cs.takeWhile Char.isDigit
    if digits = [] then none else some (some digits, cs.dropWhile Char.isDigit)
  | cs => some (none, cs)

/-- Reads a number at the front of `cs`: an integer that fits in 64 bits is kept as such. -/
def readNumber? (cs : List Char) : Option (JsonNumber × List Char) :=
  let (negative, cs) := match cs with
    | '-' :: r => (true, r)
    | r => (false, r)
  let whole := cs.takeWhile Char.isDigit
  let rest := cs.dropWhile Char.isDigit
  if whole = [] ∨ (1 < whole.length ∧ whole.head? = some '0') then none
  else do
    let (fraction, rest) ← readFraction? rest
    let (power, rest) ← readPower? rest
    let n : Int := Decimal.digitsValue whole
    let n := if negative then -n else n
    if h : fraction = none ∧ power = none ∧ ¬ (negative ∧ n = 0) ∧ -2 ^ 63 ≤ n ∧ n < 2 ^ 64 then
      some (.integer n h.2.2.2.1 h.2.2.2.2, rest)
    else
      let x ← readReal? negative whole (fraction.getD []) (power.getD 0)
      some (x, rest)

/-! ## Texts -/

/-- The value of the hexadecimal digits `cs`. -/
def hexValue? (cs : List Char) : Option Nat :=
  cs.foldlM (fun n c =>
    if '0' ≤ c ∧ c ≤ '9' then some (16 * n + (c.toNat - '0'.toNat))
    else if 'a' ≤ c ∧ c ≤ 'f' then some (16 * n + (c.toNat - 'a'.toNat + 10))
    else if 'A' ≤ c ∧ c ≤ 'F' then some (16 * n + (c.toNat - 'A'.toNat + 10))
    else none) 0

/-- The character for which a letter stands after a backslash. -/
def unescape? : Char → Option Char
  | '"' => some '"'
  | '\\' => some '\\'
  | '/' => some '/'
  | 'b' => some '\x08'
  | 'f' => some '\x0c'
  | 'n' => some '\n'
  | 'r' => some '\r'
  | 't' => some '\t'
  | _ => none

/-- The character of the UTF-16 surrogate pair `high` and `low`. -/
def ofSurrogates? (high low : Nat) : Option Char :=
  if 0xD800 ≤ high ∧ high < 0xDC00 ∧ 0xDC00 ≤ low ∧ low < 0xE000 then
    some (Char.ofNat (0x10000 + (high - 0xD800) * 0x400 + (low - 0xDC00)))
  else none

/-- Reads one character that is written by its UTF-16 code units; `cs` begins after the first `\u`.
-/
def readUnicode? (cs : List Char) : Option (Char × List Char) := do
  let high ← hexValue? (cs.take 4)
  let rest := cs.drop 4
  if cs.length < 4 then none
  else if 0xD800 ≤ high ∧ high < 0xE000 then
    match rest with
    | '\\' :: 'u' :: rest => do
      let low ← hexValue? (rest.take 4)
      if rest.length < 4 then none
      else (ofSurrogates? high low).map (·, rest.drop 4)
    | _ => none
  else some (Char.ofNat high, rest)

/-- Reads the characters of a text up to the closing quote, in reverse order of reading. -/
def readChars? : Nat → List Char → List Char → Option (String × List Char)
  | 0, _, _ => none
  | _, _, [] => none
  | _, read, '"' :: cs => some (String.ofList read.reverse, cs)
  | fuel + 1, read, '\\' :: 'u' :: cs =>
    match readUnicode? cs with
    | some (c, rest) => readChars? fuel (c :: read) rest
    | none => none
  | fuel + 1, read, '\\' :: c :: cs =>
    match unescape? c with
    | some d => readChars? fuel (d :: read) cs
    | none => none
  | fuel + 1, read, c :: cs =>
    if c.toNat < 0x20 ∨ c = '\\' then none else readChars? fuel (c :: read) cs

/-- Reads a text after its opening quote. -/
def readString? (cs : List Char) : Option (String × List Char) :=
  readChars? (cs.length + 1) [] cs

/-! ## Values -/

mutual

/-- Reads a value. -/
def readValue? : Nat → List Char → Option (Json × List Char)
  | 0, _ => none
  | fuel + 1, cs =>
    match skipSpace cs with
    | 'n' :: 'u' :: 'l' :: 'l' :: rest => some (.null, rest)
    | 't' :: 'r' :: 'u' :: 'e' :: rest => some (.bool true, rest)
    | 'f' :: 'a' :: 'l' :: 's' :: 'e' :: rest => some (.bool false, rest)
    | '"' :: rest => (readString? rest).map fun (s, rest) => (.string s, rest)
    | '[' :: rest =>
      match skipSpace rest with
      | ']' :: rest => some (.array [], rest)
      | rest => (readItems? fuel rest).map fun (items, rest) => (.array items, rest)
    | '{' :: rest =>
      match skipSpace rest with
      | '}' :: rest => some (.object [], rest)
      | rest => (readMembers? fuel [] rest).map fun (members, rest) => (.object members, rest)
    | rest => (readNumber? rest).map fun (n, rest) => (.number n, rest)

/-- Reads the items of an array up to the closing bracket. -/
def readItems? : Nat → List Char → Option (List Json × List Char)
  | 0, _ => none
  | fuel + 1, cs =>
    match readValue? fuel cs with
    | none => none
    | some (item, rest) =>
      match skipSpace rest with
      | ',' :: rest => (readItems? fuel rest).map fun (items, rest) => (item :: items, rest)
      | ']' :: rest => some ([item], rest)
      | _ => none

/-- Reads the members of an object up to the closing brace and adds them to those read before. -/
def readMembers? :
    Nat → List (String × Json) → List Char → Option (List (String × Json) × List Char)
  | 0, _, _ => none
  | fuel + 1, members, cs =>
    match skipSpace cs with
    | '"' :: rest =>
      match readString? rest with
      | none => none
      | some (key, rest) =>
        match skipSpace rest with
        | ':' :: rest =>
          match readValue? fuel rest with
          | none => none
          | some (value, rest) =>
            match skipSpace rest with
            | ',' :: rest => readMembers? fuel (SortedEntries.insert key value members) rest
            | '}' :: rest => some (SortedEntries.insert key value members, rest)
            | _ => none
        | _ => none
    | _ => none

end

/-- Reads a text that holds one value and nothing else. -/
def read? (s : String) : Option Json :=
  match readValue? (2 * s.length + 2) s.toList with
  | some (j, rest) => if skipSpace rest = [] then some j else none
  | none => none

end Quarry.Json
