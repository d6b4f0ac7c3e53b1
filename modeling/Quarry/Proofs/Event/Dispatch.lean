import Quarry.Event.Broadcast
import Quarry.Proofs.Customer.Event
import Quarry.Proofs.Event.Delivery

/-!
# Attempts to publish the events of an aggregate

A watched bus keeps a record of every message that it is offered and of its answer, so that one can
say what an attempt to publish the pending events of an aggregate asked of the bus
(`Dispatcher.offers`). Watching makes no difference to what comes of the attempt
(`Dispatcher.dispatch_unwatch`).

All events are put in envelopes before the bus is offered the first one, so an event that cannot be
written costs nothing, wherever it stands (`Aggregate.envelopesOf_error`). Then the envelopes are
offered one after the other up to the first one that is refused (`publishAll_offers`). The aggregate
gives up its events only when none was.
-/

namespace Quarry

/-! ## Watching -/

/-- A `message` that a bus was offered, with its `answer`. -/
structure Offer where
  message : Envelope
  answer : Except String Unit

/-- A `message` that a bus has taken. -/
def Offer.taken (message : Envelope) : Offer :=
  ⟨message, .ok ()⟩

/-- A `bus` together with the `offers` that it got, the oldest first. -/
structure WatchedBus (β : Type) where
  bus : β
  offers : List Offer

namespace WatchedBus

variable {β : Type} [EventBus β Envelope]

/-- Publishes a `message` and keeps what the bus answered. -/
def publish (b : WatchedBus β) (message : Envelope) : Except String Unit × WatchedBus β :=
  let (answer, bus) := EventBus.publish b.bus message
  (answer, ⟨bus, b.offers ++ [⟨message, answer⟩]⟩)

instance : EventBus (WatchedBus β) Envelope := ⟨publish⟩

end WatchedBus

section PublishAll

variable {β : Type} [EventBus β Envelope]

theorem WatchedBus.isBusView : IsBusView (WatchedBus.bus : WatchedBus β → β) :=
  fun _ _ => rfl

/-- The bus is offered the `envelopes` one after the other, all of them or those up to the first one
that it refuses. -/
theorem publishAll_offers (b : WatchedBus β) (envelopes : List Envelope) :
    ((publishAll b envelopes).1 = .ok () ∧
      (publishAll b envelopes).2.offers = b.offers ++ envelopes.map Offer.taken) ∨
    ∃ k refused reason, envelopes[k]? = some refused ∧
      (publishAll b envelopes).1 = .error (.rejected refused.eventType reason) ∧
      (publishAll b envelopes).2.offers =
        b.offers ++ ((envelopes.take k).map Offer.taken ++ [⟨refused, .error reason⟩]) := by
  induction envelopes generalizing b with
  | nil => exact Or.inl ⟨rfl, (List.append_nil _).symm⟩
  | cons envelope rest ih =>
    have hpublish : EventBus.publish b envelope = b.publish envelope := rfl
    rw [publishAll, hpublish, WatchedBus.publish]
    rcases EventBus.publish b.bus envelope with ⟨reason | u, bus⟩
    · exact Or.inr ⟨0, envelope, reason, rfl, rfl, rfl⟩
    · rcases ih ⟨bus, b.offers ++ [.taken envelope]⟩ with
        ⟨hok, hoffers⟩ | ⟨k, refused, reason, hk, herror, hoffers⟩
      · refine Or.inl ⟨hok, hoffers.trans ?_⟩
        rw [List.append_assoc]
        rfl
      · refine Or.inr ⟨k + 1, refused, reason, hk, herror, hoffers.trans ?_⟩
        rw [List.append_assoc, List.take_succ_cons]
        rfl

end PublishAll

/-! ## Events that cannot be written -/

variable {β σ ε : Type} [AggregateKind σ] [DomainEvent ε]

namespace Aggregate

/-- The first of the `events` that cannot be written is the one that is reported. -/
theorem envelopesOf_error {a : Aggregate σ ε} {ids : IdSource} {position : Nat} {events : List ε}
    {e : PublishError} (h : a.envelopesOf ids position events = .error e) :
    ∃ before event after cause, events = before ++ event :: after ∧
      (∀ earlier ∈ before, ∃ payload, JsonCodec.store earlier = .ok payload) ∧
      JsonCodec.store event = .error cause ∧
      e = .encode (DomainEvent.eventType event) cause := by
  induction events generalizing ids position with
  | nil => cases h
  | cons event rest ih =>
    simp only [envelopesOf, Envelope.ofEvent] at h
    cases hstore : JsonCodec.store event with
    | error cause =>
      rw [hstore] at h
      cases h
      exact ⟨[], event, rest, cause, rfl, fun earlier hmem => (List.not_mem_nil hmem).elim, hstore,
        rfl⟩
    | ok payload =>
      rw [hstore] at h
      cases hrest : a.envelopesOf ids.next.2 (position + 1) rest with
      | ok result =>
        simp only [Except.map, hrest] at h
        cases h
      | error e' =>
        simp only [Except.map, hrest] at h
        cases h
        obtain ⟨before, found, after, cause, hevents, hearlier, hfound, he⟩ := ih hrest
        refine ⟨event :: before, found, after, cause, congrArg (event :: ·) hevents, ?_, hfound, he⟩
        exact List.forall_mem_cons.mpr ⟨⟨payload, hstore⟩, hearlier⟩

theorem hasWritableEvents_of_envelopesOf {a : Aggregate σ ε} {ids ids' : IdSource}
    {envelopes : List Envelope} (h : a.envelopesOf ids 0 a.events.pending = .ok (envelopes, ids')) :
    a.HasWritableEvents := by
  obtain ⟨hlength, hholds⟩ := envelopesOf_ok h
  intro event hevent
  obtain ⟨i, hi, rfl⟩ := List.getElem_of_mem hevent
  obtain ⟨found, hfound, hheld⟩ := hholds i _ (List.getElem?_eq_getElem (hlength ▸ hi))
  rw [List.getElem?_eq_getElem hi] at hfound
  cases hfound
  exact ⟨_, hheld.payload⟩

/-- The `envelopes` are for all pending events of `a`, say where in the order of recording their
events stand, and are such that the events are read again from them. -/
structure IsReadableBatch (a : Aggregate σ ε) (envelopes : List Envelope) : Prop where
  isBatch : a.IsBatch envelopes
  position : ∀ (i : Nat) (envelope : Envelope), envelopes[i]? = some envelope →
    envelope.position.toNat = i
  payload : ∀ (i : Nat) (envelope : Envelope), envelopes[i]? = some envelope →
    ∃ event, a.events.pending[i]? = some event ∧ envelope.readPayload = .ok event

/-- A batch is readable if the events come back from what they are written as, and if there are
fewer than `2 ^ 32` of them, since positions are counted in 32 bits. -/
theorem IsBatch.isReadable {a : Aggregate σ ε} {envelopes : List Envelope}
    (h : a.IsBatch envelopes) (hfew : a.events.pending.length < 2 ^ 32)
    (hcodec : ∀ event ∈ a.events.pending, ∀ payload, JsonCodec.store event = .ok payload →
      JsonCodec.decode payload = .ok event) : a.IsReadableBatch envelopes where
  isBatch := h
  position i envelope hi := by
    obtain ⟨event, hevent, hholds⟩ := h.1 i envelope hi
    have hlt := (List.getElem?_eq_some_iff.mp hevent).1
    rw [hholds.position, UInt32.toNat_ofNat']
    exact Nat.mod_eq_of_lt (Nat.lt_trans hlt hfew)
  payload i envelope hi := by
    obtain ⟨event, hevent, hholds⟩ := h.1 i envelope hi
    exact ⟨event, hevent, hcodec event (List.mem_of_getElem? hevent) _ hholds.payload⟩

end Aggregate

/-! ## Attempts -/

namespace Dispatcher

variable [EventBus β Envelope]

/-- The dispatcher over the bus that is watched from now on. -/
def watch (d : Dispatcher β) : Dispatcher (WatchedBus β) :=
  ⟨⟨d.bus, []⟩, d.ids⟩

/-- The dispatcher over the bus itself. -/
def unwatch (d : Dispatcher (WatchedBus β)) : Dispatcher β :=
  ⟨d.bus.bus, d.ids⟩

theorem dispatch_unwatch (d : Dispatcher (WatchedBus β)) (a : Aggregate σ ε) :
    d.unwatch.dispatch a =
      ⟨(d.dispatch a).outcome, (d.dispatch a).aggregate, (d.dispatch a).dispatcher.unwatch⟩ :=
  dispatch_mapBus WatchedBus.isBusView d a

/-- What the bus is offered in an attempt of `d` to publish the pending events of `a`. -/
def offers (d : Dispatcher β) (a : Aggregate σ ε) : List Offer :=
  (d.watch.dispatch a).dispatcher.bus.offers

/-- If an event cannot be written, nothing is offered to the bus, and all is as it was. -/
theorem dispatch_of_unwritable {d : Dispatcher β} {a : Aggregate σ ε} {e : PublishError}
    (h : a.envelopesOf d.ids 0 a.events.pending = .error e) :
    d.dispatch a = ⟨.error e, a, d⟩ ∧ d.offers a = [] := by
  have hwatched : a.envelopesOf d.watch.ids 0 a.events.pending = .error e := h
  constructor
  · rw [dispatch, h]
  · rw [offers, dispatch, hwatched]
    rfl

/-- Once the events are in `envelopes` it is up to the bus. -/
theorem dispatch_of_writable {d : Dispatcher β} {a : Aggregate σ ε} {envelopes : List Envelope}
    {ids : IdSource} (h : a.envelopesOf d.ids 0 a.events.pending = .ok (envelopes, ids)) :
    ((d.dispatch a).outcome = .ok envelopes ∧ (d.dispatch a).aggregate = a.clearEvents ∧
      d.offers a = envelopes.map Offer.taken) ∨
    ∃ k refused reason, envelopes[k]? = some refused ∧
      (d.dispatch a).outcome = .error (.rejected refused.eventType reason) ∧
      (d.dispatch a).aggregate = a ∧
      d.offers a = (envelopes.take k).map Offer.taken ++ [⟨refused, .error reason⟩] := by
  have hwatched : a.envelopesOf d.watch.ids 0 a.events.pending = .ok (envelopes, ids) := h
  have hplain : d.dispatch a = _ := dispatch_unwatch d.watch a
  have hoffers := publishAll_offers d.watch.bus envelopes
  rw [hplain, offers, dispatch, hwatched]
  rcases hpublish : publishAll d.watch.bus envelopes with ⟨e | u, bus⟩
  · rw [hpublish] at hoffers
    rcases hoffers with ⟨hok, -⟩ | ⟨k, refused, reason, hk, herror, hoffers⟩
    · cases hok
    · cases herror
      refine Or.inr ⟨k, refused, reason, hk, ?_⟩
      simp only [hpublish]
      exact ⟨trivial, trivial, hoffers⟩
  · rw [hpublish] at hoffers
    rcases hoffers with ⟨-, hoffers⟩ | ⟨k, refused, reason, -, herror, -⟩
    · refine Or.inl ?_
      simp only [hpublish]
      exact ⟨trivial, trivial, hoffers⟩
    · cases herror

/-- The `envelopes` of a successful attempt are those that the bus has taken. They hold all pending
events, and the aggregate gives these up. -/
theorem dispatch_succeeded {d : Dispatcher β} {a : Aggregate σ ε} {envelopes : List Envelope}
    (h : (d.dispatch a).outcome = .ok envelopes) :
    d.offers a = envelopes.map Offer.taken ∧ a.IsBatch envelopes ∧
      (d.dispatch a).aggregate = a.clearEvents := by
  cases henvelopes : a.envelopesOf d.ids 0 a.events.pending with
  | error e =>
    rw [(dispatch_of_unwritable henvelopes).1] at h
    cases h
  | ok result =>
    rcases dispatch_of_writable henvelopes with
      ⟨hok, hcleared, hoffers⟩ | ⟨k, refused, reason, -, herror, -⟩
    · cases hok.symm.trans h
      exact ⟨hoffers, Aggregate.isBatch_of_envelopesOf henvelopes, hcleared⟩
    · cases herror.symm.trans h

/-- An event that cannot be written makes an attempt fail before the bus is offered anything. -/
theorem dispatch_unwritable (d : Dispatcher β) {a : Aggregate σ ε} (h : ¬ a.HasWritableEvents) :
    ∃ before event after cause, a.events.pending = before ++ event :: after ∧
      (∀ earlier ∈ before, ∃ payload, JsonCodec.store earlier = .ok payload) ∧
      JsonCodec.store event = .error cause ∧
      d.dispatch a = ⟨.error (.encode (DomainEvent.eventType event) cause), a, d⟩ ∧
      d.offers a = [] := by
  cases henvelopes : a.envelopesOf d.ids 0 a.events.pending with
  | error e =>
    obtain ⟨hdispatch, hoffers⟩ := dispatch_of_unwritable henvelopes
    obtain ⟨before, event, after, cause, hevents, hearlier, hevent, rfl⟩ :=
      Aggregate.envelopesOf_error henvelopes
    exact ⟨before, event, after, cause, hevents, hearlier, hevent, hdispatch, hoffers⟩
  | ok result => exact absurd (Aggregate.hasWritableEvents_of_envelopesOf henvelopes) h

/-- If all events can be written, an attempt fails only at an envelope that the bus refuses. -/
theorem dispatch_refused {d : Dispatcher β} {a : Aggregate σ ε} {e : PublishError}
    (hwritable : a.HasWritableEvents) (h : (d.dispatch a).outcome = .error e) :
    (d.dispatch a).aggregate = a ∧
      ∃ envelopes k refused reason, a.IsBatch envelopes ∧ envelopes[k]? = some refused ∧
        e = .rejected refused.eventType reason ∧
        d.offers a = (envelopes.take k).map Offer.taken ++ [⟨refused, .error reason⟩] := by
  obtain ⟨envelopes, ids, henvelopes⟩ := a.exists_envelopesOf hwritable d.ids 0
  rcases dispatch_of_writable henvelopes with
    ⟨hok, -, -⟩ | ⟨k, refused, reason, hk, herror, hkept, hoffers⟩
  · cases hok.symm.trans h
  · cases herror.symm.trans h
    exact ⟨hkept, envelopes, k, refused, reason, Aggregate.isBatch_of_envelopesOf henvelopes, hk,
      rfl, hoffers⟩

theorem hasWritableEvents_of_dispatch {d : Dispatcher β} {a : Aggregate σ ε}
    {envelopes : List Envelope} (h : (d.dispatch a).outcome = .ok envelopes) :
    a.HasWritableEvents := by
  by_contra hnot
  obtain ⟨_, _, _, _, -, -, -, hdispatch, -⟩ := d.dispatch_unwritable hnot
  rw [hdispatch] at h
  cases h

/-- An attempt succeeds just if all events can be written and the bus takes all that it is offered.
-/
theorem dispatch_succeeds_iff (d : Dispatcher β) (a : Aggregate σ ε) :
    (∃ envelopes, (d.dispatch a).outcome = .ok envelopes) ↔
      a.HasWritableEvents ∧ ∀ offer ∈ d.offers a, offer.answer = .ok () := by
  constructor
  · rintro ⟨envelopes, hok⟩
    refine ⟨hasWritableEvents_of_dispatch hok, ?_⟩
    rw [(dispatch_succeeded hok).1, List.forall_mem_map]
    exact fun envelope _ => rfl
  · rintro ⟨hwritable, haccepted⟩
    cases houtcome : (d.dispatch a).outcome with
    | ok envelopes => exact ⟨envelopes, rfl⟩
    | error e =>
      obtain ⟨-, envelopes, k, refused, reason, -, -, -, hoffers⟩ :=
        dispatch_refused hwritable houtcome
      have hrefused : ⟨refused, .error reason⟩ ∈ d.offers a :=
        hoffers ▸ List.mem_append_right _ (List.mem_singleton.mpr rfl)
      cases haccepted _ hrefused

theorem aggregate_of_dispatch_error {d : Dispatcher β} {a : Aggregate σ ε} {e : PublishError}
    (h : (d.dispatch a).outcome = .error e) : (d.dispatch a).aggregate = a := by
  by_cases hwritable : a.HasWritableEvents
  · exact (dispatch_refused hwritable h).1
  · obtain ⟨_, _, _, _, -, -, -, hdispatch, -⟩ := d.dispatch_unwritable hwritable
    rw [hdispatch]

/-- Either all pending events of `a` are published, or `a` keeps all of them. -/
structure IsAllOrNothing (d : Dispatcher β) (a : Aggregate σ ε) : Prop where
  /-- What the bus is offered is told by a bus that is watched, and watching changes nothing. -/
  watched : d.dispatch a = ⟨(d.watch.dispatch a).outcome, (d.watch.dispatch a).aggregate,
    (d.watch.dispatch a).dispatcher.unwatch⟩
  succeeds_iff : (∃ envelopes, (d.dispatch a).outcome = .ok envelopes) ↔
    a.HasWritableEvents ∧ ∀ offer ∈ d.offers a, offer.answer = .ok ()
  /-- The envelopes are those that the bus has taken, and the aggregate has no events any more. -/
  succeeded : ∀ envelopes, (d.dispatch a).outcome = .ok envelopes →
    d.offers a = envelopes.map Offer.taken ∧ a.IsReadableBatch envelopes ∧
      (d.dispatch a).aggregate = a.clearEvents ∧ a.clearEvents.events.pending = []
  /-- The aggregate is as it was, events included. -/
  failed : ∀ e, (d.dispatch a).outcome = .error e → (d.dispatch a).aggregate = a
  /-- The first event that cannot be written is reported, and the bus is offered nothing. -/
  unwritable : ¬ a.HasWritableEvents → ∃ before event after cause,
    a.events.pending = before ++ event :: after ∧
      (∀ earlier ∈ before, ∃ payload, JsonCodec.store earlier = .ok payload) ∧
      JsonCodec.store event = .error cause ∧
      (d.dispatch a).outcome = .error (.encode (DomainEvent.eventType event) cause) ∧
      d.offers a = []
  /-- The first envelope that the bus has refused is reported. It has taken those before it, and it
  was not offered any other one. -/
  refused : a.HasWritableEvents → ∀ e, (d.dispatch a).outcome = .error e →
    ∃ envelopes k refused reason, a.IsReadableBatch envelopes ∧ envelopes[k]? = some refused ∧
      e = .rejected refused.eventType reason ∧
      d.offers a = (envelopes.take k).map Offer.taken ++ [⟨refused, .error reason⟩]

/-- However the bus answers, an attempt to publish the pending events of `a` is all or nothing for
`a`, if the events are read from what they are written as and there are fewer than `2 ^ 32` of them.
-/
theorem dispatch_isAllOrNothing (d : Dispatcher β) (a : Aggregate σ ε)
    (hfew : a.events.pending.length < 2 ^ 32)
    (hcodec : ∀ event ∈ a.events.pending, ∀ payload, JsonCodec.store event = .ok payload →
      JsonCodec.decode payload = .ok event) : d.IsAllOrNothing a where
  watched := dispatch_unwatch d.watch a
  succeeds_iff := dispatch_succeeds_iff d a
  succeeded envelopes hok := by
    obtain ⟨hoffers, hbatch, hcleared⟩ := dispatch_succeeded hok
    exact ⟨hoffers, hbatch.isReadable hfew hcodec, hcleared, rfl⟩
  failed e herror := aggregate_of_dispatch_error herror
  unwritable hnot := by
    obtain ⟨before, event, after, cause, hevents, hearlier, hevent, hdispatch, hoffers⟩ :=
      d.dispatch_unwritable hnot
    exact ⟨before, event, after, cause, hevents, hearlier, hevent,
      congrArg Dispatch.outcome hdispatch, hoffers⟩
  refused hwritable e herror := by
    obtain ⟨-, envelopes, k, refused, reason, hbatch, hk, he, hoffers⟩ :=
      dispatch_refused hwritable herror
    exact ⟨envelopes, k, refused, reason, hbatch.isReadable hfew hcodec, hk, he, hoffers⟩

/-- A bus takes one message and refuses the next one. The aggregate keeps all its three events, the
third of which the bus was not offered at all. -/
theorem dispatch_isAllOrNothing_refused :
    let now : Timestamp := .midnight 0
    let a : Aggregate CustomerProfile CustomerEvent :=
      ⟨⟨⟨7, by decide⟩⟩, 3, .blank, ⟨[.registered "Ada" now, .relocated none now, .noted "" now]⟩⟩
    let d : Dispatcher (LimitedBus (BroadcastBus Envelope)) := ⟨⟨.empty, some 1⟩, ⟨0, 0⟩⟩
    (a.events.pending.length < 2 ^ 32 ∧
      ∀ event ∈ a.events.pending, ∀ payload, JsonCodec.store event = .ok payload →
        JsonCodec.decode payload = .ok event) ∧
      d.IsAllOrNothing a ∧ (d.dispatch a).aggregate = a ∧
      (d.dispatch a).outcome = .error (.rejected "customer.relocated" LimitedBus.refusal) ∧
      ∃ taken refused, d.offers a = [.taken taken, ⟨refused, .error LimitedBus.refusal⟩] := by
  intro now a d
  have hfew : a.events.pending.length < 2 ^ 32 := by decide
  have hcodec : ∀ event ∈ a.events.pending, ∀ payload, JsonCodec.store event = .ok payload →
      JsonCodec.decode payload = .ok event := by
    have hmoment : ∀ event ∈ a.events.pending, event.moment = now := by
      simp [a, CustomerEvent.moment]
    intro event hevent payload hstore
    refine CustomerEvent.decode_of_store hstore ?_
    rw [hmoment event hevent]
    decide
  exact ⟨⟨hfew, hcodec⟩, dispatch_isAllOrNothing d a hfew hcodec, rfl, rfl, _, _, rfl⟩

end Dispatcher

end Quarry
