import Quarry.Customer

/-!
# Customers as JSON

A customer is an object with all that is known about it and its version, and without its pending
events. Queries on stored customers see this object, so they reach into the address and the note,
which are no fields of a loaded customer. A score that is not a finite number is written as null,
which does not read back.
-/

namespace Quarry

namespace Address

/-- The address `a` as JSON. -/
def encode (a : Address) : Json :=
  .object [("city", .string a.city), ("zip", .ofOption .string a.zip)]

/-- Reads an address from `members` of an object, where `zip` may be missing. -/
def ofMembers (members : List (String × Json)) : Except DecodeError Address := do
  let city ← Json.decodeMember members "city" Json.decodeString
  let zip ← Json.decodeMember members "zip" (Json.decodeOption Json.decodeString)
  let city ← Json.requireField "city" city
  .ok ⟨city, zip.getD none⟩

/-- Reads an address. -/
def decode : Json → Except DecodeError Address
  | .object members => ofMembers members
  | j => Json.wrongType j "struct Address"

end Address

namespace Customer

/-- Writes `c` with its version and without its pending events. A confidential note cannot be
written (`Note.encode`). -/
def encode (c : Customer) : Except EncodeError Json :=
  (Note.encode c.state.note).map fun note =>
    .object
      [("id", c.id.encode),
        ("first_name", .string c.state.firstName),
        ("zip_code", .ofOption .string c.state.zipCode),
        ("is_vip", .bool c.state.isVip),
        ("age", .ofInt64 c.state.age),
        ("score", .ofBinary64 c.state.score),
        ("tags", .array (c.state.tags.map .string)),
        ("joined_at", .ofOption (fun t => .string t.renderZulu) c.state.joinedAt),
        ("address", .ofOption Address.encode c.state.address),
        ("note", note),
        ("version", .ofUInt64 c.version)]

/-- Reads a customer without pending events from `members` of an object. -/
def ofMembers (members : List (String × Json)) : Except DecodeError Customer := do
  let address ← Json.decodeMember members "address" (Json.decodeOption Address.decode)
  let age ← Json.decodeMember members "age" Json.decodeInt64
  let firstName ← Json.decodeMember members "first_name" Json.decodeString
  let id ← Json.decodeMember members "id" EntityId.decode
  let isVip ← Json.decodeMember members "is_vip" Json.decodeBool
  let joinedAt ← Json.decodeMember members "joined_at" (Json.decodeOption Json.decodeTimestamp)
  let note ← Json.decodeMember members "note" Json.decodeString
  let score ← Json.decodeMember members "score" Json.decodeBinary64
  let tags ← Json.decodeMember members "tags" (Json.decodeList Json.decodeString)
  let version ← Json.decodeMember members "version" Json.decodeUInt64
  let zipCode ← Json.decodeMember members "zip_code" (Json.decodeOption Json.decodeString)
  let id ← Json.requireField "id" id
  let firstName ← Json.requireField "first_name" firstName
  let isVip ← Json.requireField "is_vip" isVip
  let age ← Json.requireField "age" age
  let score ← Json.requireField "score" score
  let tags ← Json.requireField "tags" tags
  let note ← Json.requireField "note" note
  let version ← Json.requireField "version" version
  let profile : CustomerProfile :=
    ⟨firstName, zipCode.getD none, isVip, age, score, tags, joinedAt.getD none, address.getD none,
      note⟩
  .ok ⟨id, version, profile, .empty⟩

/-- Reads a customer. -/
def decode : Json → Except DecodeError Customer
  | .object members => ofMembers members
  | j => Json.wrongType j "struct Customer"

instance : JsonCodec Customer := ⟨encode, decode⟩

end Customer

end Quarry
