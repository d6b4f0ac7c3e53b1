import Quarry.Error

/-!
# Identifiers of entities and users

Identifiers are UUIDs, kept apart by the kind of thing that they identify. New identifiers are of
version 7: they start with the time of their creation, so that they sort by it, and go on with bits
that make them unique. Where those bits come from is not decided here; an `IdSource` counts through
them.
-/

namespace Quarry

/-- The identifier of an entity, a `Uuid`. -/
structure EntityId where
  uuid : Uuid
deriving DecidableEq

/-- The identifier of a user, who acts on entities, a `Uuid`. -/
structure UserId where
  uuid : Uuid
deriving DecidableEq

namespace EntityId

instance : Ord EntityId := ⟨compareOn uuid⟩

instance : Std.TransOrd EntityId := inferInstanceAs (Std.TransCmp (compareOn uuid))

instance : Std.LawfulEqOrd EntityId where
  eq_of_compare {a b} h := by
    have h : compare a.uuid b.uuid = .eq := h
    have h : a.uuid = b.uuid := Std.LawfulEqCmp.eq_of_compare h
    cases a; cases b; simp_all

/-- The text of `id`, which is that of its UUID. -/
def render (id : EntityId) : String := id.uuid.render

/-- Reads an identifier from `s` in any form of a UUID (`Uuid.read`). -/
def read (s : String) : Except DomainError EntityId :=
  match Uuid.read s with
  | .ok u => .ok ⟨u⟩
  | .error e => .error (.invalidId ("EntityId: " ++ e.message))

/-- The identifier `id` as JSON. -/
def encode (id : EntityId) : Json := .string id.render

/-- Reads an identifier from `j` (`Json.decodeUuid`). -/
def decode (j : Json) : Except DecodeError EntityId :=
  (Json.decodeUuid j).map EntityId.mk

end EntityId

namespace UserId

/-- The text of `id`, which is that of its UUID. -/
def render (id : UserId) : String := id.uuid.render

/-- Reads an identifier from `s` in any form of a UUID (`Uuid.read`). -/
def read (s : String) : Except DomainError UserId :=
  match Uuid.read s with
  | .ok u => .ok ⟨u⟩
  | .error e => .error (.invalidId ("UserId: " ++ e.message))

/-- The identifier `id` as JSON. -/
def encode (id : UserId) : Json := .string id.render

/-- Reads an identifier from `j` (`Json.decodeUuid`). -/
def decode (j : Json) : Except DecodeError UserId :=
  (Json.decodeUuid j).map UserId.mk

end UserId

/-! ## New identifiers -/

/-- The UUID of version 7 for the time `milliseconds`, with 74 `further` bits. -/
def Uuid.ofTime (milliseconds further : Nat) : Uuid where
  toNat :=
    milliseconds % 2 ^ 48 * 2 ^ 80 + 7 * 2 ^ 76 + further / 2 ^ 62 % 2 ^ 12 * 2 ^ 64 + 2 * 2 ^ 62 +
      further % 2 ^ 62
  toNat_lt := by omega

/-- A source of new identifiers, of which `given` were given out. All start with the time
`milliseconds`. -/
structure IdSource where
  milliseconds : Nat
  given : Nat
deriving DecidableEq, Repr

/-- A new identifier from `s`, and the source without it. -/
def IdSource.next (s : IdSource) : Uuid × IdSource :=
  (Uuid.ofTime s.milliseconds s.given, { s with given := s.given + 1 })

end Quarry
