import Quarry.Error
import Quarry.Json.Decode

/-!
# Pages

A page is a window of a fixed size into a sequence of items, given by its index. Pages are numbered
from zero, they are never empty windows, and the number of items before a page always fits in 64
bits. Whoever asks for a page gives numbers that may violate this, so every way to make a page
checks it.
-/

namespace Quarry

/-- The page `index` of a sequence that is cut into pages of `size` items. -/
structure Page where
  index : Nat
  size : Nat
  size_pos : 0 < size
  /-- The number of items before the page fits in 64 bits. -/
  skip_lt : index * size < 2 ^ 64
deriving DecidableEq

/-- A part of a sequence: the items after the first `skip` ones, and at most `take` of them. -/
structure RowRange where
  skip : Nat
  /-- The largest number of items of the part. -/
  take : Nat
deriving DecidableEq, Repr

/-- The part of `items` that lies in the range `r`. -/
def RowRange.cut {α : Type} (r : RowRange) (items : List α) : List α :=
  (items.drop r.skip).take r.take

namespace Page

/-- The page of `index` and `size`, if there is one. -/
def checked (index size : Nat) : Except ArgumentError Page :=
  if h : 0 < size then
    if h' : index * size < 2 ^ 64 then .ok ⟨index, size, h, h'⟩ else .error .pageOffset
  else .error (.pageSize 0)

/-- The page of `index` and `size` that a caller asks for. -/
def ofInts (index size : Int64) : Except ArgumentError Page :=
  if index.toInt < 0 then .error (.pageIndex index.toInt)
  else if size.toInt ≤ 0 then .error (.pageSize size.toInt)
  else checked index.toInt.toNat size.toInt.toNat

/-- The first page of `size` that a caller asks for. -/
def first (size : Int64) : Except ArgumentError Page :=
  ofInts 0 size

/-- The rows of the page `p`. -/
def range (p : Page) : RowRange :=
  ⟨p.index * p.size, p.size⟩

/-- The page after `p`, if the number of items before it fits in 64 bits. -/
def next? (p : Page) : Option Page :=
  if h : p.index + 1 < 2 ^ 64 ∧ (p.index + 1) * p.size < 2 ^ 64 then
    some ⟨p.index + 1, p.size, p.size_pos, h.2⟩
  else none

/-- The pages after the given one, at most a given number (`next?`). -/
def following : Nat → Page → List Page
  | 0, _ => []
  | n + 1, p =>
    match p.next? with
    | some next => next :: following n next
    | none => []

/-- The text of a page. -/
def describe (p : Page) : String :=
  "Page \x7b index: " ++ toString p.index ++ ", size: " ++ toString p.size ++ " \x7d"

/-! ## JSON -/

/-- The page `p` as JSON. -/
def encode (p : Page) : Json :=
  .object [("index", natural p.index), ("size", natural p.size)]
where
  natural (n : Nat) : Json := .ofUInt64 (UInt64.ofNat n)

/-- The page of the numbers `index` and `size` of a stored page, if there is one. -/
def ofStored (index size : Nat) : Except DecodeError Page :=
  (checked index size).mapError fun e => .refused e.message

/-- Reads a page from `members` of an object, where both numbers are required. -/
def ofMembers (members : List (String × Json)) : Except DecodeError Page := do
  let index ← Json.decodeMember members "index" (Json.decodeNat 64)
  let size ← Json.decodeMember members "size" (Json.decodeNat 64)
  let index ← Json.requireField "index" index
  let size ← Json.requireField "size" size
  ofStored index size

/-- Reads a page from the items of an array, the index first. -/
def ofItems (items : List Json) : Except DecodeError Page := do
  let expected := "struct RawPage with 2 elements"
  let index ← Json.decodeItem items 0 expected (Json.decodeNat 64)
  let size ← Json.decodeItem items 1 expected (Json.decodeNat 64)
  Json.requireNoMore items 2
  ofStored index size

/-- Reads a page from an object (`ofMembers`) or an array (`ofItems`). -/
def decode (j : Json) : Except DecodeError Page :=
  Json.decodeRecord "RawPage" ofMembers ofItems j

end Page

end Quarry
