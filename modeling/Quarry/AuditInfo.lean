import Quarry.EntityId

/-!
# Audit stamps

When and by whom an entity was created and last modified. A modification is never dated before the
creation: a clock that runs behind is taken to show the time of creation.
-/

namespace Quarry

/-- When and by whom an entity was created and last modified. -/
structure AuditInfo where
  createdAt : Timestamp
  createdBy : Option UserId
  /-- When it was last modified, if it ever was. -/
  modifiedAt : Option Timestamp
  /-- Who last modified it, if a user did. -/
  modifiedBy : Option UserId
deriving DecidableEq

namespace AuditInfo

/-- The stamps of an entity that `createdBy` created at `createdAt`: it was never modified. -/
def created (createdBy : Option UserId) (createdAt : Timestamp) : AuditInfo :=
  ⟨createdAt, createdBy, none, none⟩

/-- The stamps after `modifiedBy` modified the entity at `moment`, which counts as no earlier than
its creation. -/
def touch (a : AuditInfo) (modifiedBy : Option UserId) (moment : Timestamp) : AuditInfo :=
  { a with modifiedAt := some (a.createdAt.later moment), modifiedBy }

/-- When the entity was last written: at `modifiedAt` if it was modified, otherwise at `createdAt`.
-/
def lastChangedAt (a : AuditInfo) : Timestamp :=
  a.modifiedAt.getD a.createdAt

/-! ## JSON -/

/-- The stamps as a JSON object with a member for each field. -/
def encode (a : AuditInfo) : Json :=
  .object
    [("created_at", .string a.createdAt.renderZulu),
      ("created_by", .ofOption UserId.encode a.createdBy),
      ("modified_at", .ofOption (fun t => .string t.renderZulu) a.modifiedAt),
      ("modified_by", .ofOption UserId.encode a.modifiedBy)]

/-- Reads the stamps from `members` of an object, where only `createdAt` is required. -/
def ofMembers (members : List (String × Json)) : Except DecodeError AuditInfo := do
  let createdAt ← Json.decodeMember members "created_at" Json.decodeTimestamp
  let createdBy ← Json.decodeMember members "created_by" (Json.decodeOption UserId.decode)
  let modifiedAt ← Json.decodeMember members "modified_at" (Json.decodeOption Json.decodeTimestamp)
  let modifiedBy ← Json.decodeMember members "modified_by" (Json.decodeOption UserId.decode)
  let createdAt ← Json.requireField "created_at" createdAt
  .ok ⟨createdAt, createdBy.getD none, modifiedAt.getD none, modifiedBy.getD none⟩

/-- Reads the stamps from the items of an array, in the order of the fields. -/
def ofItems (items : List Json) : Except DecodeError AuditInfo := do
  let expected := "struct AuditInfo with 4 elements"
  let createdAt ← Json.decodeItem items 0 expected Json.decodeTimestamp
  let createdBy ← Json.decodeItem items 1 expected (Json.decodeOption UserId.decode)
  let modifiedAt ← Json.decodeItem items 2 expected (Json.decodeOption Json.decodeTimestamp)
  let modifiedBy ← Json.decodeItem items 3 expected (Json.decodeOption UserId.decode)
  Json.requireNoMore items 4
  .ok ⟨createdAt, createdBy, modifiedAt, modifiedBy⟩

/-- Reads the stamps from an object (`ofMembers`) or an array (`ofItems`). -/
def decode (j : Json) : Except DecodeError AuditInfo :=
  Json.decodeRecord "AuditInfo" ofMembers ofItems j

end AuditInfo

end Quarry
