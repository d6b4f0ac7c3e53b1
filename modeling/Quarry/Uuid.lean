import Quarry.Number

/-!
# Universally unique identifiers

A UUID is a number of 128 bits. Its text is 32 lower-case hexadecimal digits in five groups of 8, 4,
4, 4 and 12 digits, joined by hyphens. Reading is more liberal: the digits may be capitals, the
hyphens may all be missing, and the hyphenated form may stand in braces or after `urn:uuid:` in any
case. What is wrong with a text that cannot be read is told by `Uuid.ReadError`.
-/

namespace Quarry

/-- A number of 128 bits, as `toNat`. -/
structure Uuid where
  toNat : Nat
  toNat_lt : toNat < 2 ^ 128
deriving DecidableEq

namespace Uuid

instance : Ord Uuid := ⟨compareOn toNat⟩

instance : Std.TransOrd Uuid := inferInstanceAs (Std.TransCmp (compareOn toNat))

instance : Std.LawfulEqOrd Uuid where
  eq_of_compare {a b} h := by
    have h : a.toNat = b.toNat := Nat.compare_eq_eq.mp h
    cases a; cases b; simp_all

/-- The version of `u`, kept in the upper half of its seventh byte. -/
def version (u : Uuid) : Nat :=
  u.toNat / 2 ^ 76 % 16

/-! ## Text -/

/-- The lower-case hexadecimal digit of `n`, which is below sixteen. -/
def hexDigit (n : Nat) : Char :=
  if n < 10 then Char.ofNat ('0'.toNat + n) else Char.ofNat ('a'.toNat + (n - 10))

/-- The last `count` hexadecimal digits of a number, from the highest to the lowest. -/
def hexDigits : Nat → Nat → List Char
  | 0, _ => []
  | count + 1, n => hexDigits count (n / 16) ++ [hexDigit (n % 16)]

/-- The characters of the hyphenated form of `u`. -/
def toChars (u : Uuid) : List Char :=
  hexDigits 8 (u.toNat / 2 ^ 96) ++ '-' :: hexDigits 4 (u.toNat / 2 ^ 80) ++
    '-' :: hexDigits 4 (u.toNat / 2 ^ 64) ++ '-' :: hexDigits 4 (u.toNat / 2 ^ 48) ++
    '-' :: hexDigits 12 u.toNat

/-- The hyphenated form of `u`. -/
def render (u : Uuid) : String :=
  String.ofList u.toChars

/-! ## Reading -/

/-- Why `read` refuses a text. -/
inductive ReadError where
  /-- A character is neither a hexadecimal digit nor a hyphen; the index counts bytes. -/
  | character (found : Char) (index : Nat)
  /-- There are only digits, but not 32 of them, or the text is longer than every form. -/
  | length (found : Nat)
  | groupCount (found : Nat)
  /-- A group has the wrong number of digits. -/
  | groupLength (group found : Nat)
deriving DecidableEq, Repr

/-- The number of digits in each of the five groups. -/
def groupSizes : List Nat := [8, 4, 4, 4, 12]

/-- The text of a `ReadError`. -/
def ReadError.message : ReadError → String
  | .character c i => "invalid character: found `" ++ c.toString ++ s!"` at {i}"
  | .length n => s!"invalid length: found {n}"
  | .groupCount n => s!"invalid group count: expected 5, found {n}"
  | .groupLength g n =>
    s!"invalid group length in group {g}: expected " ++ toString (groupSizes.getD g 0) ++
      s!", found {n}"

/-- The value of `c`, if it is a hexadecimal digit of either case. -/
def hexValue? (c : Char) : Option Nat :=
  if '0' ≤ c ∧ c ≤ '9' then some (c.toNat - '0'.toNat)
  else if 'a' ≤ c ∧ c ≤ 'f' then some (c.toNat - 'a'.toNat + 10)
  else if 'A' ≤ c ∧ c ≤ 'F' then some (c.toNat - 'A'.toNat + 10)
  else none

/-- The number written by the hexadecimal digits `cs`, if there are only digits. -/
def hexNumber? (cs : List Char) : Option Nat :=
  cs.foldlM (fun n c => (hexValue? c).map (16 * n + ·)) 0

/-- The groups of characters between hyphens. -/
def groups : List Char → List (List Char)
  | [] => [[]]
  | c :: cs =>
    match groups cs with
    | [] => [[c]]
    | g :: gs => if c = '-' then [] :: g :: gs else (c :: g) :: gs

/-- The identifier that the digits `cs` stand for, if there are 32 of them. -/
def ofDigits? (cs : List Char) : Option Uuid :=
  if cs.length = 32 then
    match hexNumber? cs with
    | some n => if h : n < 2 ^ 128 then some ⟨n, h⟩ else none
    | none => none
  else none

/-- The identifier that the text `cs` stands for in the form of five groups (`groupSizes`). -/
def ofGroups? (cs : List Char) : Option Uuid :=
  if (groups cs).map List.length = groupSizes then ofDigits? (groups cs).flatten else none

/-- The text inside the braces, if the text stands in braces. -/
def unbrace? : List Char → Option (List Char)
  | '{' :: cs => if cs.getLast? = some '}' then some cs.dropLast else none
  | _ => none

/-- The text after `urn:uuid:`, if `cs` starts so, in any case. -/
def afterUrn? (cs : List Char) : Option (List Char) :=
  if (cs.take 9).map Char.toLower = "urn:uuid:".toList then some (cs.drop 9) else none

/-- The number of bytes of `cs`. -/
def byteSize (cs : List Char) : Nat :=
  (String.ofList cs).utf8ByteSize

/-- The number of bytes of the hyphenated form. -/
def hyphenatedSize : Nat := 36

/-- The number of bytes of the longest form, the one after `urn:uuid:`. -/
def longestSize : Nat := 45

/-- The part of `cs` that has to be the hyphenated form, if `cs` has exactly the size of that form
by itself, in braces or after `urn:uuid:`. -/
def hyphenated? (cs : List Char) : Option (List Char) :=
  if byteSize cs = hyphenatedSize then some cs
  else if byteSize cs = hyphenatedSize + 2 then unbrace? cs
  else if byteSize cs = longestSize then afterUrn? cs
  else none

/-- The part of a text of any other size that looks like the identifier itself, the number of bytes
in front of it, and whether nothing stands around it. -/
def unwrap (cs : List Char) : List Char × Nat × Bool :=
  match unbrace? cs with
  | some inner => (inner, 1, false)
  | none =>
    match afterUrn? cs with
    | some inner => (inner, 9, false)
    | none => (cs, 0, true)

/-- The first character that is neither a hexadecimal digit nor a hyphen, and its byte index,
counted from the given one. -/
def foreignCharacter? : Nat → List Char → Option (Char × Nat)
  | _, [] => none
  | i, c :: cs =>
    if c = '-' ∨ (hexValue? c).isSome then foreignCharacter? (i + c.utf8Size) cs else some (c, i)

/-- The first group with a wrong number of digits, and that number. -/
def wrongGroup? : Nat → List Nat → List Nat → Option (Nat × Nat)
  | i, size :: sizes, n :: ns => if size = n then wrongGroup? (i + 1) sizes ns else some (i, n)
  | _, _, _ => none

/-- What is wrong with a text that has to be the hyphenated form, or may be digits only if
`digitsOnly`. The `offset` is added to the index of a character; the last group is taken to reach to
the end of the whole text of `size` bytes, so it counts a closing brace and what stands in front as
well. -/
def faultOf (inner : List Char) (offset size : Nat) (digitsOnly : Bool) : ReadError :=
  match foreignCharacter? offset inner with
  | some (c, i) => .character c i
  | none =>
    let sizes := (groups inner).map List.length
    if sizes.length = 1 ∧ digitsOnly then .length size
    else if sizes.length ≠ 5 then .groupCount sizes.length
    else
      match wrongGroup? 0 groupSizes.dropLast sizes with
      | some (g, n) => .groupLength g n
      | none => .groupLength 4 (size - 24)

/-- What is wrong with the text `cs`, which is not an identifier. A text of the size of a hyphenated
form is judged as that form, and one longer than every form by its size alone. -/
def diagnose (cs : List Char) : ReadError :=
  match hyphenated? cs with
  | some inner => faultOf inner 0 hyphenatedSize false
  | none =>
    if longestSize < byteSize cs then .length (byteSize cs)
    else
      let (inner, offset, bare) := unwrap cs
      faultOf inner offset (byteSize cs) bare

/-- The identifier that `cs` stands for in one of the accepted forms. -/
def ofChars? (cs : List Char) : Option Uuid :=
  match hyphenated? cs with
  | some inner => ofGroups? inner
  | none => ofDigits? cs

/-- Reads the identifier `s` in one of the accepted forms (`ofChars?`). -/
def read (s : String) : Except ReadError Uuid :=
  match ofChars? s.toList with
  | some u => .ok u
  | none => .error (diagnose s.toList)

end Uuid

end Quarry
