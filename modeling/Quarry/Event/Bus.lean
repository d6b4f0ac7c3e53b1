import Quarry.Event.Envelope

/-!
# Event buses

A bus takes messages and hands them to whoever listens. It may refuse a message; the refusal has a
reason, and the bus may be in another state after it, as a broker is that goes away and comes back.
-/

namespace Quarry

/-- Buses of type `β` for messages of type `μ`. -/
class EventBus (β : Type) (μ : outParam Type) where
  /-- Publishes a message: whether the bus took it, and the bus afterwards. -/
  publish : β → μ → Except String Unit × β

/-! ## A bus with a broker that goes away -/

/-- A bus that takes only a number of further messages (`limit`). -/
structure LimitedBus (β : Type) where
  bus : β
  /-- How many further messages are taken, unless there is no limit. -/
  limit : Option Nat

namespace LimitedBus

/-- Why a message is refused at the `limit`. -/
def refusal : String := "broker unavailable"

/-- Publishes `message` on `b.bus`, unless the limit is reached. A message that `b.bus` refuses
counts as well. -/
def publish {β μ : Type} [EventBus β μ] (b : LimitedBus β) (message : μ) :
    Except String Unit × LimitedBus β :=
  match b.limit with
  | some 0 => (.error refusal, b)
  | limit =>
    let (outcome, bus) := EventBus.publish b.bus message
    (outcome, ⟨bus, limit.map (· - 1)⟩)

instance {β μ : Type} [EventBus β μ] : EventBus (LimitedBus β) μ := ⟨publish⟩

end LimitedBus

end Quarry
