import Quarry.Json.Codec

/-!
# Domain events

An event says that something has happened to an entity. It names its type and the version of the
schema of that type, so that whoever reads it later knows how, and it holds the time at which it
happened.
-/

namespace Quarry

/-- Types `ε` of events, which are written and read as JSON. -/
class DomainEvent (ε : Type) extends JsonCodec ε where
  /-- The name of the type of an event. -/
  eventType : ε → String
  /-- The version of the schema of the type. -/
  schemaVersion : ε → UInt32
  occurredAt : ε → Timestamp

/-! ## Recording -/

/-- The events that were recorded and not yet taken away, the oldest first in `pending`. -/
structure Recorder (ε : Type) where
  pending : List ε

namespace Recorder

variable {ε : Type}

/-- The recorder without events. -/
def empty : Recorder ε := ⟨[]⟩

/-- The recorder `r` with `event` behind its pending events. -/
def record (r : Recorder ε) (event : ε) : Recorder ε :=
  ⟨r.pending ++ [event]⟩

/-- The number of pending events of `r`. -/
def length (r : Recorder ε) : Nat := r.pending.length

/-- There are no pending events in `r`. -/
def isEmpty (r : Recorder ε) : Bool := r.pending.isEmpty

/-- The pending events of `r`, and the recorder without them. -/
def drain (r : Recorder ε) : List ε × Recorder ε :=
  (r.pending, empty)

/-- Recorders are always equal: what is pending is no part of the state of an entity. -/
instance : BEq (Recorder ε) := ⟨fun _ _ => true⟩

end Recorder

end Quarry
