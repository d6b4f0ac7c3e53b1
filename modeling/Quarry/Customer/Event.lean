import Quarry.Event
import Quarry.Json.Codec

/-!
# Events of customers

What happens to a customer: the registration, a move to another place, and a note. An event is
written as JSON under the name of its alternative.

A note is free text, but one that starts with an exclamation mark is confidential: it can be kept in
memory and read from JSON, and it is never written as JSON.
-/

namespace Quarry

namespace Note

/-- The sign of a confidential note. -/
def confidentialSign : Char := '!'

/-- The note is confidential: it starts with `confidentialSign`. -/
def isConfidential (note : String) : Bool :=
  note.toList.head? = some confidentialSign

/-- Writes `note` as JSON, unless it is confidential. -/
def encode (note : String) : Except EncodeError Json :=
  if isConfidential note then .error ⟨"note cannot be stored: " ++ note⟩ else .ok (.string note)

end Note

/-- Something that happened to a customer. -/
inductive CustomerEvent where
  | registered (firstName : String) (moment : Timestamp)
  | relocated (zipCode : Option String) (moment : Timestamp)
  | noted (note : String) (moment : Timestamp)
deriving DecidableEq

namespace CustomerEvent

/-- The name under which an event is written. -/
def typeName : CustomerEvent → String
  | registered _ _ => "customer.registered"
  | relocated _ _ => "customer.relocated"
  | noted _ _ => "customer.noted"

/-- When an event happened. -/
def moment : CustomerEvent → Timestamp
  | registered _ t => t
  | relocated _ t => t
  | noted _ t => t

/-- The time `t` as JSON. -/
def momentJson (t : Timestamp) : Json := .string t.renderZulu

/-- Writes an event as an object with a single member, under the name of its alternative. Only a
confidential note cannot be written (`Note.encode`). -/
def encode : CustomerEvent → Except EncodeError Json
  | registered firstName t =>
    .ok (.object
      [("Registered", .object [("first_name", .string firstName), ("at", momentJson t)])])
  | relocated zipCode t =>
    .ok (.object
      [("Relocated", .object [("zip_code", .ofOption .string zipCode), ("at", momentJson t)])])
  | noted note t =>
    (Note.encode note).map fun text =>
      .object [("Noted", .object [("note", text), ("at", momentJson t)])]

/-- Reads a registration from `members` of its content. -/
def decodeRegistered (members : List (String × Json)) : Except DecodeError CustomerEvent := do
  let moment ← Json.decodeMember members "at" Json.decodeTimestamp
  let firstName ← Json.decodeMember members "first_name" Json.decodeString
  let firstName ← Json.requireField "first_name" firstName
  let moment ← Json.requireField "at" moment
  .ok (registered firstName moment)

/-- Reads a move from `members` of its content; the customer may have no zip code afterwards. -/
def decodeRelocated (members : List (String × Json)) : Except DecodeError CustomerEvent := do
  let moment ← Json.decodeMember members "at" Json.decodeTimestamp
  let zipCode ← Json.decodeMember members "zip_code" (Json.decodeOption Json.decodeString)
  let moment ← Json.requireField "at" moment
  .ok (relocated (zipCode.getD none) moment)

/-- Reads a note from `members` of its content. -/
def decodeNoted (members : List (String × Json)) : Except DecodeError CustomerEvent := do
  let moment ← Json.decodeMember members "at" Json.decodeTimestamp
  let note ← Json.decodeMember members "note" Json.decodeString
  let note ← Json.requireField "note" note
  let moment ← Json.requireField "at" moment
  .ok (noted note moment)

/-- Reads an event from `j`, under the name of its alternative. -/
def decode (j : Json) : Except DecodeError CustomerEvent := do
  let (tag, content) ← Json.decodeVariant ["Registered", "Relocated", "Noted"] j
  let members ← Json.membersContent content
  if tag = "Registered" then decodeRegistered members
  else if tag = "Relocated" then decodeRelocated members
  else decodeNoted members

instance : DomainEvent CustomerEvent where
  encode
  decode
  eventType := typeName
  schemaVersion _ := 1
  occurredAt := moment

end CustomerEvent

end Quarry
