/-!
# Percent-encoded text

In the parts of a URL a byte may be written as a percent sign and two hexadecimal digits. Decoding
gives bytes, which are then read as UTF-8: either strictly, reporting the first sequence of bytes
that is not a character, or with a replacement character for each such sequence.
-/

namespace Quarry.Text

/-- The value of the byte `b`, if it is an ASCII hexadecimal digit. -/
def hexByte? (b : UInt8) : Option UInt8 :=
  if 0x30 ≤ b ∧ b ≤ 0x39 then some (b - 0x30)
  else if 0x41 ≤ b ∧ b ≤ 0x46 then some (b - 0x41 + 10)
  else if 0x61 ≤ b ∧ b ≤ 0x66 then some (b - 0x61 + 10)
  else none

/-- The bytes that a percent-encoded text stands for. A percent sign without two digits after it
stands for itself. -/
def percentDecode : List UInt8 → List UInt8
  | 0x25 :: h :: l :: rest =>
    match hexByte? h, hexByte? l with
    | some h, some l => (16 * h + l) :: percentDecode rest
    | _, _ => 0x25 :: percentDecode (h :: l :: rest)
  | b :: rest => b :: percentDecode rest
  | [] => []

/-- What `utf8Step` finds at the front of a list of bytes. -/
inductive Utf8Step where
  /-- A character of the given number of bytes. -/
  | character (c : Char) (size : Nat)
  /-- Some bytes that are no character. -/
  | invalid (size : Nat)
  /-- The start of a character that goes on after the last byte. -/
  | incomplete

/-- The byte `b` goes on with a character. -/
def isContinuation (b : UInt8) : Bool :=
  0x80 ≤ b && b ≤ 0xBF

/-- The bytes that may follow `first` as the first byte of a character of three or four bytes. -/
def secondByteRange (first : UInt8) : UInt8 × UInt8 :=
  if first = 0xE0 then (0xA0, 0xBF)
  else if first = 0xED then (0x80, 0x9F)
  else if first = 0xF0 then (0x90, 0xBF)
  else if first = 0xF4 then (0x80, 0x8F)
  else (0x80, 0xBF)

/-- The number of bytes of a character whose first byte is `first`, or zero if no character has it.
-/
def utf8Width (first : UInt8) : Nat :=
  if first < 0x80 then 1
  else if first < 0xC2 then 0
  else if first < 0xE0 then 2
  else if first < 0xF0 then 3
  else if first < 0xF5 then 4
  else 0

/-- The number that the continuation `bytes` add to, from `start` on. -/
def addBytes (start : Nat) (bytes : List UInt8) : Nat :=
  bytes.foldl (fun n b => 64 * n + (b.toNat - 0x80)) start

/-- Reads the bytes after the first one of a character of `width` bytes, whose upper bits are
`start`. The second byte has to be in `range`. -/
def continueCharacter (start width : Nat) (range : UInt8 × UInt8) (rest : List UInt8) : Utf8Step :=
  match rest with
  | [] => .incomplete
  | second :: more =>
    if second < range.1 ∨ range.2 < second then .invalid 1
    else
      let others := (more.take (width - 2)).takeWhile isContinuation
      if others.length = width - 2 then
        .character (Char.ofNat (addBytes start (second :: others))) width
      else if more.length = others.length then .incomplete
      else .invalid (2 + others.length)

/-- Reads the character at the front of the bytes `first` and `rest`. -/
def utf8Step (first : UInt8) (rest : List UInt8) : Utf8Step :=
  match utf8Width first with
  | 1 => .character (Char.ofNat first.toNat) 1
  | 2 => continueCharacter (first.toNat - 0xC0) 2 (0x80, 0xBF) rest
  | 3 => continueCharacter (first.toNat - 0xE0) 3 (secondByteRange first) rest
  | 4 => continueCharacter (first.toNat - 0xF0) 4 (secondByteRange first) rest
  | _ => .invalid 1

/-- The first bytes that are not UTF-8: their place and, unless the text ends within a character,
their number. -/
structure Utf8Error where
  /-- The number of bytes before them. -/
  index : Nat
  /-- How many bytes are no character. -/
  size : Option Nat
deriving DecidableEq, Repr

/-- The text of a `Utf8Error`. -/
def Utf8Error.message (e : Utf8Error) : String :=
  match e.size with
  | some n => s!"invalid utf-8 sequence of {n} bytes from index " ++ toString e.index
  | none => "incomplete utf-8 byte sequence from index " ++ toString e.index

/-- Reads characters from bytes. The characters of a faulty part are replaced, and the first fault
is kept. The first argument bounds the number of steps, each of which uses up a byte. -/
def utf8Chars : Nat → Nat → List UInt8 → List Char × Option Utf8Error
  | 0, _, _ => ([], none)
  | _, _, [] => ([], none)
  | fuel + 1, index, first :: rest =>
    match utf8Step first rest with
    | .character c size =>
      let (cs, fault) := utf8Chars fuel (index + size) (rest.drop (size - 1))
      (c :: cs, fault)
    | .invalid size =>
      let (cs, _) := utf8Chars fuel (index + size) (rest.drop (size - 1))
      ('\uFFFD' :: cs, some ⟨index, some size⟩)
    | .incomplete => (['\uFFFD'], some ⟨index, none⟩)

/-- The text that the percent-encoded text `cs` stands for, and the first fault in its bytes. -/
def percentText (cs : List Char) : String × Option Utf8Error :=
  let bytes := percentDecode (String.ofList cs).toUTF8.toList
  let (decoded, fault) := utf8Chars bytes.length 0 bytes
  (String.ofList decoded, fault)

end Quarry.Text
