import Quarry.Error

/-!
# JSON codecs

What a program stores or sends as JSON it has to write and to read, and both can fail. Writing gives
the members of an object in the order of its fields. A value that is kept has its members in the
order of their keys, so that reading it back goes through them in that order.
-/

namespace Quarry

/-- The `reason` why something cannot be written as JSON. -/
structure EncodeError where
  reason : String
deriving DecidableEq, Repr

instance : Reported EncodeError := ⟨fun e => ⟨"Json", e.reason⟩⟩

/-- Types `α` whose values are written as JSON and read back. -/
class JsonCodec (α : Type) where
  encode : α → Except EncodeError Json
  decode : Json → Except DecodeError α

/-- Writes `a` in the form in which it is kept: with all members sorted (`Json.sorted`). -/
def JsonCodec.store {α : Type} [JsonCodec α] (a : α) : Except EncodeError Json :=
  (JsonCodec.encode a).map Json.sorted

end Quarry
