import Quarry.Aggregate
import Quarry.Event.Bus

/-!
# Dispatching events

A dispatcher publishes the pending events of an aggregate after the write that they belong to. All
of them are put in envelopes before the first one is published, and the aggregate loses them only
when the bus has taken all. So a failure leaves every event pending, and a further attempt publishes
all of them again: each event is delivered at least once.
-/

namespace Quarry

/-- Why `Dispatcher.dispatch` fails. -/
inductive PublishError where
  | encode (eventType : String) (cause : EncodeError)
  | rejected (eventType reason : String)

/-- The text of a `PublishError`. -/
def PublishError.message : PublishError → String
  | .encode eventType cause => s!"failed to serialize {eventType}: " ++ cause.reason
  | .rejected eventType reason => s!"event bus rejected {eventType}: {reason}"

instance : Reported PublishError where
  report
    | e@(.encode _ _) => ⟨"PublishSerialize", e.message⟩
    | e@(.rejected _ _) => ⟨"PublishBus", e.message⟩

/-- A publisher of events in envelopes on a bus of type `β`. -/
structure Dispatcher (β : Type) where
  bus : β
  /-- Where the identifiers of the envelopes come from. -/
  ids : IdSource

/-- What came of `Dispatcher.dispatch` for an aggregate. -/
structure Dispatch (β σ ε : Type) where
  /-- The envelopes that were published, if all of them were. -/
  outcome : Except PublishError (List Envelope)
  aggregate : Aggregate σ ε
  dispatcher : Dispatcher β

/-- Puts events of `a` in envelopes, the first of them at the given position, with identifiers from
the source. The first event that cannot be written is reported. -/
def Aggregate.envelopesOf {σ ε : Type} [AggregateKind σ] [DomainEvent ε] (a : Aggregate σ ε) :
    IdSource → Nat → List ε → Except PublishError (List Envelope × IdSource)
  | ids, _, [] => .ok ([], ids)
  | ids, position, event :: rest =>
    let (eventId, ids) := ids.next
    match Envelope.ofEvent eventId a.id.render (AggregateKind.name σ) a.version
        (UInt32.ofNat position) event with
    | .error e => .error (.encode (DomainEvent.eventType event) e)
    | .ok envelope =>
      (a.envelopesOf ids (position + 1) rest).map
        fun (envelopes, ids) => (envelope :: envelopes, ids)

/-- Publishes envelopes one after the other, up to the first one that the bus refuses. -/
def publishAll {β : Type} [EventBus β Envelope] :
    β → List Envelope → Except PublishError Unit × β
  | bus, [] => (.ok (), bus)
  | bus, envelope :: rest =>
    match EventBus.publish bus envelope with
    | (.ok (), bus) => publishAll bus rest
    | (.error reason, bus) => (.error (.rejected envelope.eventType reason), bus)

namespace Dispatcher

variable {β σ ε : Type} [EventBus β Envelope] [AggregateKind σ] [DomainEvent ε]

/-- Publishes the pending events of `a` in the order in which they were recorded. They stay pending
unless the bus takes all of them. -/
def dispatch (d : Dispatcher β) (a : Aggregate σ ε) : Dispatch β σ ε :=
  match a.envelopesOf d.ids 0 a.events.pending with
  | .error e => ⟨.error e, a, d⟩
  | .ok (envelopes, ids) =>
    match publishAll d.bus envelopes with
    | (.ok (), bus) => ⟨.ok envelopes, a.clearEvents, ⟨bus, ids⟩⟩
    | (.error e, bus) => ⟨.error e, a, ⟨bus, ids⟩⟩

end Dispatcher

end Quarry
