import Quarry.Binary64.Rounding
import Quarry.SortedMap

/-!
# JSON values

A JSON number is either an integer of 64 bits, signed or unsigned, or a finite binary64 number; the
two are different numbers even where they are equal, as `2024` and `2024.0` are. The members of an
object are a list of pairs. A value that is written member by member keeps them in the order of
writing; `Json.sorted` puts them in the order of their keys, which is the order in which stored
values and values read from text keep them.
-/

namespace Quarry

/-- A number as it occurs in JSON. -/
inductive JsonNumber where
  /-- An integer that fits in 64 bits, with or without a sign. -/
  | integer (n : Int) (low_le : -2 ^ 63 ≤ n) (lt_high : n < 2 ^ 64)
  /-- A number with a fraction or an exponent, or too large for an integer. -/
  | real (x : Binary64) (finite : x.isFinite = true)
deriving DecidableEq

/-- The binary64 number nearest to a JSON number. -/
def JsonNumber.toBinary64 : JsonNumber → Binary64
  | .integer n _ _ => Binary64.ofInt n
  | .real x _ => x

/-- A JSON value. -/
inductive Json where
  /-- The value `null`. -/
  | null
  | bool (b : Bool)
  | number (n : JsonNumber)
  | string (s : String)
  | array (items : List Json)
  | object (members : List (String × Json))

namespace Json

instance : Inhabited Json := ⟨.null⟩

/-! ## Building values -/

/-- The integer `n` of 64 bits with a sign. -/
def ofInt64 (n : Int64) : Json :=
  .number (.integer n.toInt (Int64.le_toInt n)
    (Int.lt_of_lt_of_le (Int64.toInt_lt n) (by decide)))

/-- The integer `n` of 64 bits without a sign. -/
def ofUInt64 (n : UInt64) : Json :=
  .number (.integer n.toNat (Int.le_trans (by decide) (Int.natCast_nonneg n.toNat))
    (Int.ofNat_lt.mpr n.toNat_lt))

/-- The natural number `n`, which is below `2 ^ 64`. -/
def ofNatLT (n : Nat) (h : n < 2 ^ 64) : Json :=
  .number (.integer n (Int.le_trans (by decide) (Int.natCast_nonneg n)) (Int.ofNat_lt.mpr h))

/-- The floating-point number `x`. JSON has no text for NaN and the infinities, so they become null.
-/
def ofBinary64 (x : Binary64) : Json :=
  if h : x.isFinite = true then .number (.real x h) else .null

/-- An optional value, written by `f` if it is there and as null otherwise. -/
def ofOption (f : α → Json) : Option α → Json
  | some a => f a
  | none => .null

/-! ## Reading values -/

/-- The value under `key` among the `members` of an object. -/
def member? (key : String) (members : List (String × Json)) : Option Json :=
  members.lookup key

/-- Whether the value is `null`. -/
def isNull : Json → Bool
  | .null => true
  | _ => false

/-! ## Order of members -/

/-- The `members` in the order of their keys; of two members with one key the later counts. -/
def sortMembers (members : List (String × Json)) : List (String × Json) :=
  members.foldl (fun sorted m => SortedEntries.insert m.1 m.2 sorted) []

mutual

/-- The value with the members of every object in the order of their keys (`sortMembers`). -/
def sorted : Json → Json
  | .array items => .array (sortedItems items)
  | .object members => .object (sortMembers (sortedMembers members))
  | j => j

/-- Sorts each value of a list, by `sorted`. -/
def sortedItems : List Json → List Json
  | [] => []
  | j :: js => sorted j :: sortedItems js

/-- Sorts the value of each member, by `sorted`. -/
def sortedMembers : List (String × Json) → List (String × Json)
  | [] => []
  | (k, v) :: ms => (k, sorted v) :: sortedMembers ms

end

/-! ## Equality -/

mutual

/-- Whether two values are the same. -/
def beq : Json → Json → Bool
  | .null, .null => true
  | .bool a, .bool b => a == b
  | .number m, .number n => m == n
  | .string s, .string t => s == t
  | .array as, .array bs => beqItems as bs
  | .object ms, .object ns => beqMembers ms ns
  | _, _ => false

/-- Whether two lists of values are the same. -/
def beqItems : List Json → List Json → Bool
  | [], [] => true
  | a :: as, b :: bs => beq a b && beqItems as bs
  | _, _ => false

/-- Whether two lists of members are the same, in the same order. -/
def beqMembers : List (String × Json) → List (String × Json) → Bool
  | [], [] => true
  | (k, a) :: ms, (l, b) :: ns => k == l && beq a b && beqMembers ms ns
  | _, _ => false

end

instance : BEq Json := ⟨beq⟩

end Json

end Quarry
