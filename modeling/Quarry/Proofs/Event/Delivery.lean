import Quarry.Event.Dispatcher

/-!
# What a bus accepts from a dispatcher

A recording bus passes every message on to another bus and keeps those that were accepted, in their
order. It answers as the other bus does, so whatever is run over it tells what the other bus accepts
in the same run (`Dispatcher.dispatch_forget`).

The envelopes of an aggregate hold its pending events, one event each, from the first one on
(`Aggregate.IsBatchStart`). An attempt to publish them gets all of them accepted or fails, and then
the accepted ones are the start of the batch up to some event, never the whole of it.
-/

namespace Quarry

/-! ## Recording -/

/-- A `bus` together with the messages that it has `accepted`, the oldest first. -/
structure RecordingBus (β : Type) where
  bus : β
  accepted : List Envelope

namespace RecordingBus

variable {β : Type} [EventBus β Envelope]

/-- Publishes a `message` and keeps it if the bus accepts it. -/
def publish (b : RecordingBus β) (message : Envelope) : Except String Unit × RecordingBus β :=
  match EventBus.publish b.bus message with
  | (.ok (), bus) => (.ok (), ⟨bus, b.accepted ++ [message]⟩)
  | (.error reason, bus) => (.error reason, ⟨bus, b.accepted⟩)

instance : EventBus (RecordingBus β) Envelope := ⟨publish⟩

end RecordingBus

section PublishAll

variable {β : Type} [EventBus β Envelope]

/-- What `view` shows of a bus is a bus itself and answers like it. -/
def IsBusView {γ : Type} [EventBus γ Envelope] (view : β → γ) : Prop :=
  ∀ (bus : β) (message : Envelope), EventBus.publish (view bus) message =
    ((EventBus.publish bus message).1, view (EventBus.publish bus message).2)

/-- A view of a bus shows what comes of publishing `envelopes` one by one. -/
theorem IsBusView.publishAll_eq {γ : Type} [EventBus γ Envelope] {view : β → γ}
    (h : IsBusView view) (bus : β) (envelopes : List Envelope) :
    publishAll (view bus) envelopes =
      ((publishAll bus envelopes).1, view (publishAll bus envelopes).2) := by
  induction envelopes generalizing bus with
  | nil => rfl
  | cons envelope rest ih =>
    rw [publishAll, publishAll, h]
    rcases EventBus.publish bus envelope with ⟨reason | u, bus'⟩
    · rfl
    · exact ih bus'

theorem RecordingBus.isBusView : IsBusView (RecordingBus.bus : RecordingBus β → β) := by
  intro b message
  have hpublish : EventBus.publish b message = b.publish message := rfl
  rw [hpublish, RecordingBus.publish]
  rcases EventBus.publish b.bus message with ⟨reason | u, bus⟩
  · rfl
  · rfl

/-- The bus accepts the `envelopes` up to the first one that it refuses. -/
theorem publishAll_accepted (b : RecordingBus β) (envelopes : List Envelope) :
    ((publishAll b envelopes).1 = .ok () ∧
      (publishAll b envelopes).2.accepted = b.accepted ++ envelopes) ∨
    ∃ e k, k < envelopes.length ∧ (publishAll b envelopes).1 = .error e ∧
      (publishAll b envelopes).2.accepted = b.accepted ++ envelopes.take k := by
  induction envelopes generalizing b with
  | nil => exact Or.inl ⟨rfl, (List.append_nil _).symm⟩
  | cons envelope rest ih =>
    have hpub : EventBus.publish b envelope = b.publish envelope := rfl
    rw [publishAll, hpub, RecordingBus.publish]
    rcases EventBus.publish b.bus envelope with ⟨reason | u, bus⟩
    · exact Or.inr ⟨_, 0, Nat.succ_pos _, rfl, (List.append_nil _).symm⟩
    · rcases ih ⟨bus, b.accepted ++ [envelope]⟩ with ⟨hok, hacc⟩ | ⟨e, k, hk, herr, hacc⟩
      · refine Or.inl ⟨hok, hacc.trans ?_⟩
        rw [List.append_assoc]
        rfl
      · refine Or.inr ⟨e, k + 1, Nat.succ_lt_succ hk, herr, hacc.trans ?_⟩
        rw [List.append_assoc, List.take_succ_cons]
        rfl

end PublishAll

/-! ## Batches -/

variable {σ ε : Type} [AggregateKind σ] [DomainEvent ε]

/-- The `envelope` holds an `event` of `a` that stands at a `position` among the pending ones. The
identifier of the delivery is left open; it is another one at each attempt. -/
structure Envelope.Holds (envelope : Envelope) (a : Aggregate σ ε) (position : Nat) (event : ε) :
    Prop where
  aggregateId : envelope.aggregateId = a.id.render
  aggregateType : envelope.aggregateType = AggregateKind.name σ
  aggregateVersion : envelope.aggregateVersion = a.version
  position : envelope.position = UInt32.ofNat position
  eventType : envelope.eventType = DomainEvent.eventType event
  eventVersion : envelope.eventVersion = DomainEvent.schemaVersion event
  occurredAt : envelope.occurredAt = DomainEvent.occurredAt event
  payload : JsonCodec.store event = .ok envelope.payload

namespace Aggregate

/-- The `envelopes` hold the pending events of `a` from the first one on, in the order in which they
were recorded. -/
def IsBatchStart (a : Aggregate σ ε) (envelopes : List Envelope) : Prop :=
  ∀ (i : Nat) (envelope : Envelope), envelopes[i]? = some envelope →
    ∃ event, a.events.pending[i]? = some event ∧ envelope.Holds a i event

/-- The `envelopes` are the start of a batch to which events are missing. -/
def IsPartialBatch (a : Aggregate σ ε) (envelopes : List Envelope) : Prop :=
  a.IsBatchStart envelopes ∧ envelopes.length < a.events.pending.length

/-- The `envelopes` are for all pending events of `a`. -/
def IsBatch (a : Aggregate σ ε) (envelopes : List Envelope) : Prop :=
  a.IsBatchStart envelopes ∧ envelopes.length = a.events.pending.length

/-- All pending events of `a` can be written. -/
def HasWritableEvents (a : Aggregate σ ε) : Prop :=
  ∀ event ∈ a.events.pending, ∃ payload, JsonCodec.store event = .ok payload

/-- The first `k` envelopes of a start are a start. -/
theorem IsBatchStart.take {a : Aggregate σ ε} {envelopes : List Envelope}
    (h : a.IsBatchStart envelopes) (k : Nat) : a.IsBatchStart (envelopes.take k) := by
  intro i envelope hi
  rw [List.getElem?_take] at hi
  split at hi
  · exact h i envelope hi
  · cases hi

theorem holds_of_ofEvent {a : Aggregate σ ε} {eventId : Uuid} {position : Nat} {event : ε}
    {envelope : Envelope}
    (h : Envelope.ofEvent eventId a.id.render (AggregateKind.name σ) a.version
      (UInt32.ofNat position) event = .ok envelope) : envelope.Holds a position event := by
  unfold Envelope.ofEvent at h
  cases hp : JsonCodec.store event with
  | error e =>
    rw [hp] at h
    cases h
  | ok payload =>
    rw [hp] at h
    cases h
    exact ⟨rfl, rfl, rfl, rfl, rfl, rfl, rfl, hp⟩

/-- The `events` from a `position` on, once they are in `envelopes`, are held by these one by one.
-/
theorem envelopesOf_ok {a : Aggregate σ ε} {ids ids' : IdSource} {position : Nat}
    {events : List ε} {envelopes : List Envelope}
    (h : a.envelopesOf ids position events = .ok (envelopes, ids')) :
    envelopes.length = events.length ∧
      ∀ (i : Nat) (envelope : Envelope), envelopes[i]? = some envelope →
        ∃ event, events[i]? = some event ∧ envelope.Holds a (position + i) event := by
  induction events generalizing ids position envelopes with
  | nil =>
    cases h
    exact ⟨rfl, fun i envelope hi => by simp at hi⟩
  | cons event rest ih =>
    simp only [envelopesOf] at h
    split at h
    · cases h
    · next first hfirst =>
      cases hrest : a.envelopesOf ids.next.2 (position + 1) rest with
      | error e =>
        rw [hrest] at h
        cases h
      | ok result =>
        obtain ⟨others, ids''⟩ := result
        rw [hrest] at h
        cases h
        obtain ⟨hlen, hall⟩ := ih hrest
        refine ⟨congrArg Nat.succ hlen, fun i envelope hi => ?_⟩
        cases i with
        | zero =>
          cases hi
          exact ⟨event, rfl, holds_of_ofEvent hfirst⟩
        | succ i =>
          obtain ⟨found, hfound, hholds⟩ := hall i envelope hi
          refine ⟨found, hfound, ?_⟩
          rw [Nat.add_right_comm] at hholds
          exact hholds

theorem isBatch_of_envelopesOf {a : Aggregate σ ε} {ids ids' : IdSource}
    {envelopes : List Envelope} (h : a.envelopesOf ids 0 a.events.pending = .ok (envelopes, ids')) :
    a.IsBatch envelopes := by
  obtain ⟨hlength, hholds⟩ := envelopesOf_ok h
  refine ⟨fun i envelope hi => ?_, hlength⟩
  obtain ⟨event, hevent, hheld⟩ := hholds i envelope hi
  rw [Nat.zero_add] at hheld
  exact ⟨event, hevent, hheld⟩

/-- Events that can be written are put into envelopes, wherever the identifiers come from. -/
theorem exists_envelopesOf (a : Aggregate σ ε) {events : List ε}
    (h : ∀ event ∈ events, ∃ payload, JsonCodec.store event = .ok payload) (ids : IdSource)
    (position : Nat) :
    ∃ envelopes ids', a.envelopesOf ids position events = .ok (envelopes, ids') := by
  induction events generalizing ids position with
  | nil => exact ⟨[], ids, rfl⟩
  | cons event rest ih =>
    obtain ⟨⟨payload, hpayload⟩, hrest⟩ := List.forall_mem_cons.mp h
    obtain ⟨envelopes, ids', henvelopes⟩ := ih hrest ids.next.2 (position + 1)
    simp only [envelopesOf, Envelope.ofEvent, hpayload, henvelopes]
    exact ⟨_, _, rfl⟩

end Aggregate

/-! ## Dispatching -/

namespace Dispatcher

variable {β : Type} [EventBus β Envelope]

/-- The dispatcher over what `view` shows of the bus of `d`. -/
def mapBus {γ : Type} (view : β → γ) (d : Dispatcher β) : Dispatcher γ :=
  ⟨view d.bus, d.ids⟩

/-- Dispatching over a view of a bus shows what comes of dispatching over the bus. -/
theorem dispatch_mapBus {γ : Type} [EventBus γ Envelope] {view : β → γ} (h : IsBusView view)
    (d : Dispatcher β) (a : Aggregate σ ε) :
    (d.mapBus view).dispatch a =
      ⟨(d.dispatch a).outcome, (d.dispatch a).aggregate,
        (d.dispatch a).dispatcher.mapBus view⟩ := by
  have hids : (d.mapBus view).ids = d.ids := rfl
  have hbus : (d.mapBus view).bus = view d.bus := rfl
  unfold dispatch
  rw [hids, hbus]
  cases a.envelopesOf d.ids 0 a.events.pending with
  | error e => rfl
  | ok result =>
    obtain ⟨envelopes, ids⟩ := result
    simp only [h.publishAll_eq]
    rcases publishAll d.bus envelopes with ⟨e | u, bus⟩
    · rfl
    · rfl

/-- The dispatcher over the bus itself. -/
def forget (d : Dispatcher (RecordingBus β)) : Dispatcher β :=
  ⟨d.bus.bus, d.ids⟩

/-- Recording makes no difference to what comes of dispatching. -/
theorem dispatch_forget (d : Dispatcher (RecordingBus β)) (a : Aggregate σ ε) :
    d.forget.dispatch a =
      ⟨(d.dispatch a).outcome, (d.dispatch a).aggregate, (d.dispatch a).dispatcher.forget⟩ :=
  dispatch_mapBus RecordingBus.isBusView d a

/-- An attempt to publish the pending events of `a`: either the bus accepts a whole batch, or the
attempt fails, `a` keeps all its events, and the bus has accepted a part of a batch. -/
theorem dispatch_accepted (d : Dispatcher (RecordingBus β)) (a : Aggregate σ ε) :
    (∃ batch, (d.dispatch a).outcome = .ok batch ∧ a.IsBatch batch ∧
      (d.dispatch a).dispatcher.bus.accepted = d.bus.accepted ++ batch) ∨
    ∃ e taken, (d.dispatch a).outcome = .error e ∧ (d.dispatch a).aggregate = a ∧
      a.IsPartialBatch taken ∧
      (d.dispatch a).dispatcher.bus.accepted = d.bus.accepted ++ taken := by
  unfold dispatch
  cases henv : a.envelopesOf d.ids 0 a.events.pending with
  | error e =>
    refine Or.inr ⟨e, [], rfl, rfl, ⟨fun i envelope hi => by simp at hi, ?_⟩, ?_⟩
    · rcases hp : a.events.pending with _ | ⟨event, rest⟩
      · rw [hp] at henv
        cases henv
      · exact Nat.succ_pos _
    · exact (List.append_nil _).symm
  | ok result =>
    obtain ⟨envelopes, ids⟩ := result
    obtain ⟨hstart, hlen⟩ := Aggregate.isBatch_of_envelopesOf henv
    have hacc := publishAll_accepted d.bus envelopes
    rcases hpub : publishAll d.bus envelopes with ⟨e | u, bus⟩
    · rw [hpub] at hacc
      simp only [hpub]
      rcases hacc with ⟨hok, -⟩ | ⟨e', k, hk, -, hacc⟩
      · cases hok
      · refine Or.inr ⟨e, envelopes.take k, rfl, trivial, ⟨hstart.take k, ?_⟩, hacc⟩
        rw [List.length_take, ← hlen]
        omega
    · rw [hpub] at hacc
      simp only [hpub]
      rcases hacc with ⟨-, hacc⟩ | ⟨e', k, -, herr, -⟩
      · exact Or.inl ⟨envelopes, rfl, ⟨hstart, hlen⟩, hacc⟩
      · cases herr

end Dispatcher

end Quarry
