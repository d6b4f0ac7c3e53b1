import Quarry.Event.Bus

/-!
# Broadcasting

A broadcast bus hands every message to every subscription. Each subscription has a queue of its own,
so that what one of them has read makes no difference to the others. A subscriber that leaves is
noticed only at the next message, and until then it is still counted. After the bus is closed, what
is queued can still be read.
-/

namespace Quarry

/-- The end of a `BroadcastBus` that a subscriber reads from. -/
structure Subscription (μ : Type) where
  /-- The messages that were not read yet, the oldest first. -/
  queue : List μ
  isActive : Bool
  /-- The bus has the subscription on its list. -/
  isListed : Bool

namespace Subscription

variable {μ : Type}

/-- A new subscription. -/
def new : Subscription μ := ⟨[], true, true⟩

/-- The subscription of a subscriber who came after the bus was closed. -/
def void : Subscription μ := ⟨[], false, false⟩

/-- The subscription after `message`: it is queued, or the bus notices that nobody reads it. -/
def deliver (s : Subscription μ) (message : μ) : Subscription μ :=
  if s.isListed then
    if s.isActive then { s with queue := s.queue ++ [message] } else { s with isListed := false }
  else s

/-- The subscription after its subscriber has left, and with it the queue. -/
def leave (s : Subscription μ) : Subscription μ :=
  { s with queue := [], isActive := false }

/-- The subscription after the bus is closed. -/
def unlist (s : Subscription μ) : Subscription μ :=
  { s with isListed := false }

end Subscription

/-- A bus that hands every message to every subscription, until it `isClosed`. -/
structure BroadcastBus (μ : Type) where
  /-- The subscriptions in the order in which they were made. -/
  subscriptions : List (Subscription μ)
  isClosed : Bool

/-- How long a subscriber waits in `receive`. -/
inductive Patience where
  | none
  | limited
  /-- Until there is a message or never can be one. -/
  | unlimited
deriving DecidableEq, Repr

/-- Why `receive` gives no message. -/
structure ReceiveError where
  patience : Patience
  /-- The bus is closed, so that no message will ever come. -/
  isClosed : Bool
deriving DecidableEq, Repr

/-- The text of a `ReceiveError`. -/
def ReceiveError.message : ReceiveError → String
  | ⟨.none, false⟩ => "receiving on an empty channel"
  | ⟨.limited, false⟩ => "timed out waiting on channel"
  | ⟨.unlimited, false⟩ => "waiting on an empty channel"
  | ⟨.limited, true⟩ => "channel is empty and sending half is closed"
  | ⟨_, true⟩ => "receiving on a closed channel"

instance : Reported ReceiveError where
  report e :=
    let kind := match e.patience with
      | .none => "TryRecv"
      | .limited => "RecvTimeout"
      | .unlimited => "Recv"
    ⟨kind, e.message⟩

namespace BroadcastBus

variable {μ : Type}

/-- The bus without subscriptions. -/
def empty : BroadcastBus μ := ⟨[], false⟩

/-- The bus with one more subscription. Nothing is ever delivered to one that is made after the bus
was closed (`Subscription.void`). -/
def subscribe (b : BroadcastBus μ) : BroadcastBus μ :=
  { b with subscriptions := b.subscriptions ++ [if b.isClosed then .void else .new] }

/-- The number that the next subscription gets; they are counted from zero. -/
def nextIndex (b : BroadcastBus μ) : Nat := b.subscriptions.length

/-- The subscription `index`, if there is one that its subscriber still reads. -/
def active? (b : BroadcastBus μ) (index : Nat) : Option (Subscription μ) :=
  (b.subscriptions[index]?).filter (·.isActive)

/-- The bus after the subscriber of `index` has left. -/
def leave (b : BroadcastBus μ) (index : Nat) : BroadcastBus μ :=
  { b with subscriptions := b.subscriptions.modify index .leave }

/-- The bus after `message`, which every subscription gets (`Subscription.deliver`). -/
def broadcast (b : BroadcastBus μ) (message : μ) : BroadcastBus μ :=
  { b with subscriptions := b.subscriptions.map (·.deliver message) }

instance : EventBus (BroadcastBus μ) μ := ⟨fun b message => (.ok (), b.broadcast message)⟩

/-- The number of subscriptions on the list of the bus. -/
def subscriberCount (b : BroadcastBus μ) : Nat :=
  b.subscriptions.countP (·.isListed)

/-- The closed bus, whose list is empty. -/
def close (b : BroadcastBus μ) : BroadcastBus μ :=
  ⟨b.subscriptions.map .unlist, true⟩

/-- The bus with `queue` as the queue of the subscription `index`. -/
def setQueue (b : BroadcastBus μ) (index : Nat) (queue : List μ) : BroadcastBus μ :=
  { b with subscriptions := b.subscriptions.modify index ({ · with queue }) }

/-- The next message of the subscription `index`, or why there is none, and the bus without that
message. -/
def receive (b : BroadcastBus μ) (patience : Patience) (index : Nat) :
    Except ReceiveError μ × BroadcastBus μ :=
  match (b.active? index).map Subscription.queue with
  | some (message :: rest) => (.ok message, b.setQueue index rest)
  | _ => (.error ⟨patience, b.isClosed⟩, b)

/-- All messages of the subscription `index`, and the bus without them. -/
def drain (b : BroadcastBus μ) (index : Nat) : List μ × BroadcastBus μ :=
  match b.active? index with
  | some s => (s.queue, b.setQueue index [])
  | none => ([], b)

end BroadcastBus

end Quarry
