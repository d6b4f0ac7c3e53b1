import Quarry.Number
import Quarry.Text.Blank
import Quarry.Timestamp

/-!
# Timestamps as RFC 3339 text

Writing uses the date, the letter `T`, the time of day, a fraction of three, six or nine digits if
the nanoseconds need one, and the offset of UTC, which is either `+00:00` or `Z`. A year outside 0
to 9999 has a sign and at least four digits.

Reading comes in two forms. The strict form (`Timestamp.readStrict`) is the format of the RFC: a
four-digit year, two digits in every other field and an offset with a colon. The lenient form
(`Timestamp.readLenient`) also takes signed years of any length, one digit where two are usual,
blanks between the fields and the word `UTC` as an offset. Both read the parts from left to right
and stop at the first fault, so the error names what is wrong first; faults in the value of a part
count when that part is read, and the parts that fit together badly only at the end.
-/

namespace Quarry.Timestamp

/-! ## Writing -/

/-- The number `n` in decimal digits, with zeros in front up to `width`. -/
def padded (width n : Nat) : String :=
  let cs := Nat.toDigits 10 n
  String.ofList (List.replicate (width - cs.length) '0' ++ cs)

/-- The text of `year`: four digits, and a sign if it lies outside 0 to 9999. -/
def renderYear (year : Int) : String :=
  if 0 ≤ year ∧ year ≤ 9999 then padded 4 year.natAbs
  else (if year < 0 then "-" else "+") ++ padded 4 year.natAbs

/-- The text of `nano` as a fraction of a second, in as many groups of three digits as it needs. -/
def renderFraction (nano : Nat) : String :=
  if nano = 0 then ""
  else if nano % 1000000 = 0 then "." ++ padded 3 (nano / 1000000)
  else if nano % 1000 = 0 then "." ++ padded 6 (nano / 1000)
  else "." ++ padded 9 nano

/-- The second of the minute of `t` and the nanoseconds within it, where a leap second is second 60.
-/
def secondAndNano (t : Timestamp) : Nat × Nat :=
  if t.nano < 1000000000 then (t.second % 60, t.nano) else (t.second % 60 + 1, t.nano - 1000000000)

/-- The text of `t` without an offset: the date and the time of day. -/
def renderLocal (t : Timestamp) : String :=
  let d := Date.ofDayNumber t.day
  let (sec, nano) := t.secondAndNano
  renderYear d.year ++ "-" ++ padded 2 d.month ++ "-" ++ padded 2 d.day ++ "T" ++
    padded 2 (t.second / 3600) ++ ":" ++ padded 2 (t.second / 60 % 60) ++ ":" ++ padded 2 sec ++
    renderFraction nano

/-- The text of `t` with the offset written in digits. -/
def render (t : Timestamp) : String :=
  t.renderLocal ++ "+00:00"

/-- The text of `t` with the offset written as a letter. -/
def renderZulu (t : Timestamp) : String :=
  t.renderLocal ++ "Z"

/-! ## Reading -/

/-- Why a text is not a timestamp. -/
inductive ReadError where
  /-- A part has a value that it cannot have. -/
  | outOfRange
  /-- A character stands where it cannot stand. -/
  | invalid
  /-- The text ends before the timestamp does. -/
  | tooShort
  /-- The text goes on after the timestamp. -/
  | tooLong
  /-- The moment lies outside of the years that there are. -/
  | impossible
deriving DecidableEq, Repr

/-- The text of a `ReadError`. -/
def ReadError.message : ReadError → String
  | .outOfRange => "input is out of range"
  | .invalid => "input contains invalid characters"
  | .tooShort => "premature end of input"
  | .tooLong => "trailing input"
  | .impossible => "no possible date and time matching input"

/-- Reads a part at the front of a text, and gives back the rest of the text with it. -/
abbrev Reader (α : Type) := List Char → Except ReadError (α × List Char)

/-- Reads the character `c`. -/
def character (c : Char) : Reader Unit
  | [] => .error .tooShort
  | d :: cs => if d = c then .ok ((), cs) else .error .invalid

/-- The number of bytes of `cs`. -/
def byteCount (cs : List Char) : Nat :=
  cs.foldl (fun n c => n + c.utf8Size) 0

/-- The decimal digits at the front, at most `most` of them. -/
def leadingDigits : Nat → List Char → List Char
  | 0, _ => []
  | _, [] => []
  | most + 1, c :: cs => if c.isDigit then c :: leadingDigits most cs else []

/-- The number that the digits `cs` stand for. -/
def numberOf (cs : List Char) : Nat :=
  cs.foldl (fun n c => 10 * n + (c.toNat - '0'.toNat)) 0

/-- Reads a number of at least `least` and at most `most` digits. It has to fit in 63 bits. -/
def number (least most : Nat) : Reader Nat := fun cs =>
  if byteCount cs < least then .error .tooShort
  else
    let digits := leadingDigits most cs
    if digits.length < least then .error .invalid
    else if 2 ^ 63 ≤ numberOf digits then .error .outOfRange
    else .ok (numberOf digits, cs.drop digits.length)

/-- Reads a number of `least` to two digits that has to lie between `low` and `high`. -/
def field (least low high : Nat) : Reader Nat := fun cs => do
  let (n, rest) ← number least 2 cs
  if low ≤ n ∧ n ≤ high then .ok (n, rest) else .error .outOfRange

/-- Reads an optional point and the digits of a fraction as nanoseconds. Digits after the ninth are
skipped. -/
def fractionOfSecond : Reader Nat
  | '.' :: cs => do
    let (n, rest) ← number 1 9 cs
    let used := (leadingDigits 9 cs).length
    .ok (n * 10 ^ (9 - used), rest.dropWhile Char.isDigit)
  | cs => .ok (0, cs)

/-- Reads the two digits of the hours or minutes of an offset. -/
def offsetHours : Reader Nat
  | h :: l :: cs =>
    if h.isDigit ∧ l.isDigit then .ok (numberOf [h, l], cs) else .error .invalid
  | [c] => .error (if c.utf8Size < 2 then .tooShort else .invalid)
  | [] => .error .tooShort

/-- Reads the minutes of an offset. -/
def offsetMinutes : Reader Nat
  | h :: l :: cs =>
    if h.isDigit ∧ l.isDigit then
      if numberOf [h] ≤ 5 then .ok (numberOf [h, l], cs) else .error .outOfRange
    else .error .invalid
  | [c] => .error (if c.utf8Size < 2 then .tooShort else .invalid)
  | [] => .error .tooShort

/-- Reads an offset from UTC in seconds: the letter `Z`, or a sign, hours, what `separator` reads,
and minutes. The minus sign of typography counts as a minus. -/
def offset (separator : Reader Unit) : Reader Int
  | [] => .error .tooShort
  | c :: cs =>
    if c = 'Z' ∨ c = 'z' then .ok (0, cs)
    else if c = '+' ∨ c = '-' ∨ c = '\u2212' then do
      let (hours, rest) ← offsetHours cs
      let ((), rest) ← separator rest
      let (minutes, rest) ← offsetMinutes rest
      let seconds : Int := hours * 3600 + minutes * 60
      .ok (if c = '+' then seconds else -seconds, rest)
    else .error .invalid

/-- Reads the letter or the space between the date and the time of day. -/
def dateTimeSeparator : Reader Unit
  | [] => .error .tooShort
  | c :: cs => if c = 'T' ∨ c = 't' ∨ c = ' ' then .ok ((), cs) else .error .invalid

/-- The parts of a timestamp as they are written, in the time that has the `offset` from UTC. -/
structure Parts where
  date : Date
  hour : Nat
  minute : Nat
  /-- The second of the minute; 60 is a leap second. -/
  second : Nat
  nano : Nat
  /-- The offset from UTC in seconds. -/
  offset : Int

/-- The first year that there is. -/
def firstYear : Int := -262143

/-- The last year that there is. -/
def lastYear : Int := 262142

/-- The day `day` is in one of the years from `firstYear` to `lastYear`. -/
def isDayInRange (day : Int) : Bool :=
  Date.toDayNumber ⟨firstYear, 1, 1⟩ ≤ day && day ≤ Date.toDayNumber ⟨lastYear, 12, 31⟩

/-- The moment that `p` denotes. The date has to exist, and the offset has to be less than a day;
both the date as it is written and the moment itself have to be in the years from `firstYear` to
`lastYear`. -/
def Parts.toTimestamp (p : Parts) : Except ReadError Timestamp :=
  if ¬ p.date.isValid ∨ p.date.year < firstYear ∨ lastYear < p.date.year ∨
      86400 ≤ p.offset.natAbs then
    .error .outOfRange
  else
    let timeOfDay : Int := p.hour * 3600 + p.minute * 60 + min p.second 59
    let seconds := p.date.toDayNumber * 86400 + timeOfDay - p.offset
    let nano := if p.second = 60 then p.nano + 1000000000 else p.nano
    if ¬ isDayInRange (seconds / 86400) then .error .impossible
    else
      match ofParts? (seconds / 86400) (seconds % 86400).toNat nano with
      | some t => .ok t
      | none => .error .outOfRange

/-- Reads the format of RFC 3339 from `s`. -/
def readStrict (s : String) : Except ReadError Timestamp := do
  let (year, cs) ← number 4 4 s.toList
  let ((), cs) ← character '-' cs
  let (month, cs) ← field 2 1 12 cs
  let ((), cs) ← character '-' cs
  let (day, cs) ← field 2 1 31 cs
  let ((), cs) ← dateTimeSeparator cs
  let (hour, cs) ← field 2 0 23 cs
  let ((), cs) ← character ':' cs
  let (minute, cs) ← field 2 0 59 cs
  let ((), cs) ← character ':' cs
  let (second, cs) ← field 2 0 60 cs
  let (nano, cs) ← fractionOfSecond cs
  let (offset, cs) ← offset (character ':') cs
  if 86400 ≤ offset.natAbs then .error .outOfRange
  else if cs ≠ [] then .error .tooLong
  else Parts.toTimestamp ⟨⟨year, month, day⟩, hour, minute, second, nano, offset⟩

/-- Reads a year: one to four digits, or a sign and any number of digits. -/
def lenientYear : Reader Int
  | '-' :: cs => do
    let (n, rest) ← number 1 cs.length cs
    .ok (-(n : Int), rest)
  | '+' :: cs => do
    let (n, rest) ← number 1 cs.length cs
    .ok (n, rest)
  | cs => do
    let (n, rest) ← number 1 4 cs
    .ok (n, rest)

/-- Reads a year that a date can have. -/
def boundedYear : Reader Int := fun cs => do
  let (year, rest) ← lenientYear cs
  if -2 ^ 31 ≤ year ∧ year < 2 ^ 31 then .ok (year, rest) else .error .outOfRange

/-- Reads blanks and then a number of one or two digits between `low` and `high`. -/
def lenientField (low high : Nat) : Reader Nat := fun cs =>
  field 1 low high (Text.dropBlanks cs)

/-- Reads blanks and then the character `c`. -/
def lenientCharacter (c : Char) : Reader Unit := fun cs =>
  character c (Text.dropBlanks cs)

/-- Reads any number of colons and blanks. -/
def colonsAndBlanks : Reader Unit := fun cs =>
  .ok ((), cs.dropWhile fun c => c = ':' ∨ Text.isBlank c)

/-- Reads an offset, which may be the word `UTC` in any case. -/
def lenientOffset : Reader Int := fun cs =>
  if (cs.take 3).map Char.toLower = ['u', 't', 'c'] then .ok (0, cs.drop 3)
  else offset colonsAndBlanks cs

/-- Reads the lenient form from `s`: blanks between the parts, numbers without zeros in front, and
years of any length with a sign. -/
def readLenient (s : String) : Except ReadError Timestamp := do
  let (year, cs) ← boundedYear (Text.dropBlanks s.toList)
  let ((), cs) ← lenientCharacter '-' cs
  let (month, cs) ← lenientField 1 12 cs
  let ((), cs) ← lenientCharacter '-' cs
  let (day, cs) ← lenientField 1 31 cs
  let ((), cs) ← dateTimeSeparator cs
  let (hour, cs) ← lenientField 0 23 cs
  let ((), cs) ← lenientCharacter ':' cs
  let (minute, cs) ← lenientField 0 59 cs
  let ((), cs) ← lenientCharacter ':' cs
  let (second, cs) ← lenientField 0 60 cs
  let (nano, cs) ← fractionOfSecond cs
  let (offset, cs) ← lenientOffset (Text.dropBlanks cs)
  if Text.dropBlanks cs ≠ [] then .error .tooLong
  else Parts.toTimestamp ⟨⟨year, month, day⟩, hour, minute, second, nano, offset⟩

end Quarry.Timestamp
