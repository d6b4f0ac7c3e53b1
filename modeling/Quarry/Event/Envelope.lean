import Quarry.Event

/-!
# Envelopes

An event travels in an envelope that says which aggregate it belongs to, which write of the
aggregate brought it about and at which position among the events of that write it stands, so that
consumers can route it and tell repeated deliveries. The event itself is the payload, in JSON, so
that one bus can carry the events of all kinds of aggregates.
-/

namespace Quarry

/-- An event with what its consumers need to know. The `eventId` is that of the delivery. -/
structure Envelope where
  eventId : Uuid
  aggregateId : String
  aggregateType : String
  /-- The version that the aggregate reached by the write. -/
  aggregateVersion : UInt64
  /-- The number of earlier events of the same write. -/
  position : UInt32
  eventType : String
  /-- The version of the schema of the type. -/
  eventVersion : UInt32
  occurredAt : Timestamp
  payload : Json

namespace Envelope

/-- Puts `event` in an envelope, in the form in which it is kept (`JsonCodec.store`). -/
def ofEvent {ε : Type} [DomainEvent ε] (eventId : Uuid) (aggregateId aggregateType : String)
    (aggregateVersion : UInt64) (position : UInt32) (event : ε) : Except EncodeError Envelope :=
  (JsonCodec.store event).map fun payload =>
    { eventId, aggregateId, aggregateType, aggregateVersion, position,
      eventType := DomainEvent.eventType event
      eventVersion := DomainEvent.schemaVersion event
      occurredAt := DomainEvent.occurredAt event
      payload }

/-- Reads the event in the envelope `e`. -/
def readPayload {ε : Type} [JsonCodec ε] (e : Envelope) : Except DecodeError ε :=
  JsonCodec.decode e.payload

/-! ## JSON -/

/-- The envelope `e` as JSON, with a member for each field. -/
def encode (e : Envelope) : Json :=
  .object
    [("event_id", .string e.eventId.render),
      ("aggregate_id", .string e.aggregateId),
      ("aggregate_type", .string e.aggregateType),
      ("aggregate_version", .ofUInt64 e.aggregateVersion),
      ("position", .ofUInt64 e.position.toUInt64),
      ("event_type", .string e.eventType),
      ("event_version", .ofUInt64 e.eventVersion.toUInt64),
      ("occurred_at", .string e.occurredAt.renderZulu),
      ("payload", e.payload)]

/-- Reads an envelope from `members` of an object, where every field is required. -/
def ofMembers (members : List (String × Json)) : Except DecodeError Envelope := do
  let aggregateId ← Json.decodeMember members "aggregate_id" Json.decodeString
  let aggregateType ← Json.decodeMember members "aggregate_type" Json.decodeString
  let aggregateVersion ← Json.decodeMember members "aggregate_version" Json.decodeUInt64
  let eventId ← Json.decodeMember members "event_id" Json.decodeUuid
  let eventType ← Json.decodeMember members "event_type" Json.decodeString
  let eventVersion ← Json.decodeMember members "event_version" Json.decodeUInt32
  let occurredAt ← Json.decodeMember members "occurred_at" Json.decodeTimestamp
  let position ← Json.decodeMember members "position" Json.decodeUInt32
  let eventId ← Json.requireField "event_id" eventId
  let aggregateId ← Json.requireField "aggregate_id" aggregateId
  let aggregateType ← Json.requireField "aggregate_type" aggregateType
  let aggregateVersion ← Json.requireField "aggregate_version" aggregateVersion
  let position ← Json.requireField "position" position
  let eventType ← Json.requireField "event_type" eventType
  let eventVersion ← Json.requireField "event_version" eventVersion
  let occurredAt ← Json.requireField "occurred_at" occurredAt
  let payload ← Json.requireField "payload" (Json.member? "payload" members)
  .ok ⟨eventId, aggregateId, aggregateType, aggregateVersion, position, eventType, eventVersion,
    occurredAt, payload⟩

/-- Reads an envelope from the items of an array, in the order of the fields. -/
def ofItems (items : List Json) : Except DecodeError Envelope := do
  let expected := "struct EventEnvelope with 9 elements"
  let eventId ← Json.decodeItem items 0 expected Json.decodeUuid
  let aggregateId ← Json.decodeItem items 1 expected Json.decodeString
  let aggregateType ← Json.decodeItem items 2 expected Json.decodeString
  let aggregateVersion ← Json.decodeItem items 3 expected Json.decodeUInt64
  let position ← Json.decodeItem items 4 expected Json.decodeUInt32
  let eventType ← Json.decodeItem items 5 expected Json.decodeString
  let eventVersion ← Json.decodeItem items 6 expected Json.decodeUInt32
  let occurredAt ← Json.decodeItem items 7 expected Json.decodeTimestamp
  let payload ← Json.decodeItem items 8 expected .ok
  Json.requireNoMore items 9
  .ok ⟨eventId, aggregateId, aggregateType, aggregateVersion, position, eventType, eventVersion,
    occurredAt, payload⟩

/-- Reads an envelope from an object (`ofMembers`) or an array (`ofItems`). -/
def decode (j : Json) : Except DecodeError Envelope :=
  Json.decodeRecord "EventEnvelope" ofMembers ofItems j

end Envelope

end Quarry
