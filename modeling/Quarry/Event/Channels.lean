import Quarry.Event.Broadcast

/-!
# Broadcasting over channels

The broadcast bus at work. A subscription is the receiving end of a channel, and the bus has a list
of the sending ends. A message is published in one pass over this list: it is sent into one channel
after the other, and on the way every sender is taken off the list whose channel has no receiving
end any more.
-/

namespace Quarry

/-- A channel in which the messages keep their order. Nothing can be sent into it once it is not
`isReceived`. -/
structure Channel (μ : Type) where
  /-- The messages that were sent and not received yet, the oldest first. -/
  queue : List μ
  isReceived : Bool

/-- Channels from a bus to its subscribers. -/
structure ChannelBus (μ : Type) where
  /-- The channels in the order in which they were made. -/
  channels : List (Channel μ)
  /-- The senders on the list of the bus; each is the number of its channel. -/
  senders : List Nat

namespace ChannelBus

variable {μ : Type}

/-- The bus without subscriptions. -/
def empty : ChannelBus μ := ⟨[], []⟩

/-- The bus `b` with one more channel and its sender. -/
def subscribe (b : ChannelBus μ) : ChannelBus μ :=
  ⟨b.channels ++ [⟨[], true⟩], b.senders ++ [b.channels.length]⟩

/-- Sends `message` into the channel of `sender`: whether it was sent, which fails just if the
receiving end is gone, and the channels afterwards. -/
def send (message : μ) (sender : Nat) (channels : List (Channel μ)) :
    Bool × List (Channel μ) :=
  match channels[sender]? with
  | some ⟨queue, true⟩ => (true, channels.set sender ⟨queue ++ [message], true⟩)
  | _ => (false, channels)

/-- Sends `message` by one sender after the other: the senders that could send it, and the channels
afterwards. -/
def sendAll (message : μ) : List Nat → List (Channel μ) → List Nat × List (Channel μ)
  | [], channels => ([], channels)
  | sender :: rest, channels =>
    let (sent, channels) := send message sender channels
    let (kept, channels) := sendAll message rest channels
    (if sent then sender :: kept else kept, channels)

/-- Publishes `message`. A sender that fails is taken off the list, and none makes publishing fail.
-/
def publish (b : ChannelBus μ) (message : μ) : Except String Unit × ChannelBus μ :=
  let (senders, channels) := sendAll message b.senders b.channels
  (.ok (), ⟨channels, senders⟩)

instance : EventBus (ChannelBus μ) μ := ⟨publish⟩

/-- The bus after the receiving end of the channel `index` is gone, and with it what was in the
channel. -/
def leave (b : ChannelBus μ) (index : Nat) : ChannelBus μ :=
  { b with channels := b.channels.modify index fun _ => ⟨[], false⟩ }

/-- The next message in the channel `index`, if there is one, and the bus without it. -/
def receive? (b : ChannelBus μ) (index : Nat) : Option μ × ChannelBus μ :=
  match b.channels[index]? with
  | some ⟨message :: rest, true⟩ =>
    (some message, { b with channels := b.channels.set index ⟨rest, true⟩ })
  | _ => (none, b)

/-- All messages in the channel `index`, and the bus without them. -/
def drain (b : ChannelBus μ) (index : Nat) : List μ × ChannelBus μ :=
  match b.channels[index]? with
  | some ⟨queue, true⟩ => (queue, { b with channels := b.channels.set index ⟨[], true⟩ })
  | _ => ([], b)

/-- What is in the channel `index`, if it is still received from. -/
def queue? (b : ChannelBus μ) (index : Nat) : Option (List μ) :=
  ((b.channels[index]?).filter (·.isReceived)).map (·.queue)

/-- The number of senders on the list of the bus. -/
def subscriberCount (b : ChannelBus μ) : Nat :=
  b.senders.length

end ChannelBus

end Quarry
