import Quarry.Json.Printer
import Quarry.Text.Quoted
import Quarry.Timestamp.Rfc3339
import Quarry.Uuid

/-!
# Decoding JSON values

The parts of which decoders are built, and what they report. A decoder goes through a value in a
fixed order and reports the first fault: the members of an object in the order of their keys, then
the fields that are missing in the order of their declaration; the items of an array from left to
right.

A record can be written as an object or as the array of its fields. An alternative is written as its
name, or as an object whose only key is its name and whose value is what it holds.
-/

namespace Quarry

/-- What a decoder met where it wanted something else. -/
inductive Json.Unexpected where
  /-- A value of the given kind and content. -/
  | value (j : Json)
  /-- The name of an alternative without a content. -/
  | bareVariant

/-- Why a value cannot be decoded. -/
inductive DecodeError where
  | invalidType (found : Json.Unexpected) (expected : String)
  /-- A value has the right type and lies outside of what is allowed. -/
  | invalidValue (found : Json.Unexpected) (expected : String)
  /-- An array has the wrong number of items. -/
  | invalidLength (found : Nat) (expected : String)
  | unknownVariant (found : String) (known : List String)
  | missingField (name : String)
  /-- A value is, or holds, an object where only plain values and lists can stand. -/
  | notAValue
  | uuid (cause : Uuid.ReadError)
  | timestamp (cause : Timestamp.ReadError)
  /-- The parts were read and then refused for the stated reason. -/
  | refused (reason : String)

namespace Json

/-! ## Error texts -/

/-- How an unexpected value is described in a `DecodeError`. -/
def Unexpected.message : Unexpected → String
  | .bareVariant => "unit variant"
  | .value .null => "null"
  | .value (.bool b) => s!"boolean `{b}`"
  | .value (.number (.integer n _ _)) => s!"integer `{n}`"
  | .value (.number (.real x _)) => "floating point `" ++ realText x ++ "`"
  | .value (.string s) => "string " ++ Text.quote s
  | .value (.array _) => "sequence"
  | .value (.object _) => "map"

/-- The names of the alternatives that would have been known, as the end of an error text. -/
def knownVariants : List String → String
  | [] => "there are no variants"
  | [a] => s!"expected `{a}`"
  | [a, b] => s!"expected `{a}` or `{b}`"
  | names => "expected one of " ++ String.intercalate ", " (names.map fun a => s!"`{a}`")

end Json

/-- The text of a `DecodeError`. -/
def DecodeError.message : DecodeError → String
  | .invalidType found expected => "invalid type: " ++ found.message ++ ", expected " ++ expected
  | .invalidValue found expected => "invalid value: " ++ found.message ++ ", expected " ++ expected
  | .invalidLength found expected => s!"invalid length {found}, expected {expected}"
  | .unknownVariant found known => s!"unknown variant `{found}`, " ++ Json.knownVariants known
  | .missingField name => s!"missing field `{name}`"
  | .notAValue => "data did not match any variant of untagged enum WireValue"
  | .uuid cause => "UUID parsing failed: " ++ cause.message
  | .timestamp cause => cause.message
  | .refused reason => reason

namespace Json

/-! ## Plain values -/

/-- The fault of the value `j`, which is not of the type `expected`. -/
def wrongType (j : Json) (expected : String) : Except DecodeError α :=
  .error (.invalidType (.value j) expected)

/-- A truth value. -/
def decodeBool : Json → Except DecodeError Bool
  | .bool b => .ok b
  | j => wrongType j "a boolean"

/-- A text. -/
def decodeString : Json → Except DecodeError String
  | .string s => .ok s
  | j => wrongType j "a string"

/-- An integer of 64 bits with a sign. -/
def decodeInt64 : Json → Except DecodeError Int64
  | j@(.number (.integer n _ _)) =>
    if n < 2 ^ 63 then .ok (Int64.ofInt n) else .error (.invalidValue (.value j) "i64")
  | j => wrongType j "i64"

/-- A natural number of at most `bits` bits. -/
def decodeNat (bits : Nat) : Json → Except DecodeError Nat
  | j@(.number (.integer n _ _)) =>
    if 0 ≤ n ∧ n < 2 ^ bits then .ok n.toNat else .error (.invalidValue (.value j) s!"u{bits}")
  | j => wrongType j s!"u{bits}"

/-- An integer of 64 bits without a sign. -/
def decodeUInt64 (j : Json) : Except DecodeError UInt64 :=
  (decodeNat 64 j).map UInt64.ofNat

/-- An integer of 32 bits without a sign. -/
def decodeUInt32 (j : Json) : Except DecodeError UInt32 :=
  (decodeNat 32 j).map UInt32.ofNat

/-- A floating-point number; an integer counts as the nearest one (`JsonNumber.toBinary64`). -/
def decodeBinary64 : Json → Except DecodeError Binary64
  | .number n => .ok n.toBinary64
  | j => wrongType j "f64"

/-- A UUID. -/
def decodeUuid : Json → Except DecodeError Uuid
  | .string s => (Uuid.read s).mapError .uuid
  | j => wrongType j "a UUID string"

/-- A timestamp. -/
def decodeTimestamp : Json → Except DecodeError Timestamp
  | .string s => (Timestamp.readLenient s).mapError .timestamp
  | j => wrongType j "an RFC 3339 formatted date and time string"

/-- A value that `decode` reads, or null. -/
def decodeOption (decode : Json → Except DecodeError α) : Json → Except DecodeError (Option α)
  | .null => .ok none
  | j => (decode j).map some

/-- A list of values that `decode` reads. The first one at fault is reported. -/
def decodeList (decode : Json → Except DecodeError α) : Json → Except DecodeError (List α)
  | .array items => items.mapM decode
  | j => wrongType j "a sequence"

/-! ## Records -/

/-- The field under `key`, if there is one. -/
def decodeMember (members : List (String × Json)) (key : String)
    (decode : Json → Except DecodeError α) : Except DecodeError (Option α) :=
  match member? key members with
  | some j => (decode j).map some
  | none => .ok none

/-- The field `name`, which has to be there. -/
def requireField (name : String) : Option α → Except DecodeError α
  | some a => .ok a
  | none => .error (.missingField name)

/-- The field at the place `i` of an array, which has to be that long. -/
def decodeItem (items : List Json) (i : Nat) (expected : String)
    (decode : Json → Except DecodeError α) : Except DecodeError α :=
  match items[i]? with
  | some j => decode j
  | none => .error (.invalidLength i expected)

/-- The array `items` has no more than `count` items. -/
def requireNoMore (items : List Json) (count : Nat) : Except DecodeError Unit :=
  if items.length ≤ count then .ok ()
  else .error (.invalidLength items.length "fewer elements in array")

/-- The record `name`, from the members of an object or the items of an array. -/
def decodeRecord (name : String) (ofMembers : List (String × Json) → Except DecodeError α)
    (ofItems : List Json → Except DecodeError α) : Json → Except DecodeError α
  | .object members => ofMembers members
  | .array items => ofItems items
  | j => wrongType j ("struct " ++ name)

/-! ## Alternatives -/

/-- The name of an alternative among `known`, and its content if it is written with one. -/
def decodeVariant (known : List String) (j : Json) : Except DecodeError (String × Option Json) :=
  let checked (name : String) (content : Option Json) : Except DecodeError (String × Option Json) :=
    if known.contains name then .ok (name, content) else .error (.unknownVariant name known)
  match j with
  | .string name => checked name none
  | .object [(name, content)] => checked name (some content)
  | .object _ => .error (.invalidValue (.value j) "map with a single key")
  | _ => wrongType j "string or map"

/-- The content of an alternative that holds nothing. -/
def noContent : Option Json → Except DecodeError Unit
  | none => .ok ()
  | some .null => .ok ()
  | some j => wrongType j "unit"

/-- The content of an alternative that holds one value. -/
def valueContent : Option Json → Except DecodeError Json
  | some j => .ok j
  | none => .error (.invalidType .bareVariant "newtype variant")

/-- The content of the alternative `name`, which holds several values. -/
def itemsContent (name : String) : Option Json → Except DecodeError (List Json)
  | none => .error (.invalidType .bareVariant "tuple variant")
  | some (.array []) => wrongType .null ("tuple variant " ++ name)
  | some (.array items) => .ok items
  | some j => wrongType j "tuple variant"

/-- The content of an alternative that holds a record. -/
def membersContent : Option Json → Except DecodeError (List (String × Json))
  | none => .error (.invalidType .bareVariant "struct variant")
  | some (.object members) => .ok members
  | some j => wrongType j "struct variant"

end Json

end Quarry
