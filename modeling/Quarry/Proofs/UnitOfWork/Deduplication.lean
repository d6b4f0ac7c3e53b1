import Quarry.Proofs.Repository.Versions
import Quarry.Proofs.UnitOfWork.Accounting

/-!
# Telling repeated deliveries

When publishing fails, it is tried again, and the bus accepts some events a second time. Each time an
event gets a new envelope, so its consumers go by what stays the same: the identifier of the
aggregate, the version that it reached by the write, and the position among the events of the write
(`Envelope.SameKey`).

Envelopes of one write with the same key hold the same event. For different writes the versions have
to tell. They do for as long as an aggregate is stored, since every update takes it to a new version.
But a removal has the version of the write before it, and when the aggregate is added again, the
versions start again. In no other case do two writes share a key
(`UnitOfWork.repeated_deliveries_are_told`).
-/

namespace Quarry

/-! ## Keys -/

namespace Envelope

/-- By their keys `e` and `e'` cannot be told apart. -/
structure SameKey (e e' : Envelope) : Prop where
  aggregateId : e.aggregateId = e'.aggregateId
  aggregateVersion : e.aggregateVersion = e'.aggregateVersion
  position : e.position = e'.position

/-- The envelopes `e` and `e'` agree in all that their keys and the identifiers of the deliveries do
not say. -/
structure SameEvent (e e' : Envelope) : Prop where
  aggregateType : e.aggregateType = e'.aggregateType
  eventType : e.eventType = e'.eventType
  eventVersion : e.eventVersion = e'.eventVersion
  occurredAt : e.occurredAt = e'.occurredAt
  payload : e.payload = e'.payload

variable {σ ε : Type} [AggregateKind σ] [DomainEvent ε] {e e' : Envelope} {a : Aggregate σ ε}

theorem Holds.sameEvent {i j : Nat} {event : ε} (h : e.Holds a i event)
    (h' : e'.Holds a j event) : e.SameEvent e' where
  aggregateType := h.aggregateType.trans h'.aggregateType.symm
  eventType := h.eventType.trans h'.eventType.symm
  eventVersion := h.eventVersion.trans h'.eventVersion.symm
  occurredAt := h.occurredAt.trans h'.occurredAt.symm
  payload := Except.ok.inj (h.payload.symm.trans h'.payload)

/-- Among no more than `2 ^ 32` events, the position of an envelope tells its event. -/
theorem Holds.sameEvent_of_position {i j : Nat} {event event' : ε} (h : e.Holds a i event)
    (h' : e'.Holds a j event') (hi : a.events.pending[i]? = some event)
    (hj : a.events.pending[j]? = some event') (hlength : a.events.pending.length ≤ 2 ^ 32)
    (hposition : e.position = e'.position) : e.SameEvent e' := by
  have hilt : i < a.events.pending.length := (List.getElem?_eq_some_iff.mp hi).1
  have hjlt : j < a.events.pending.length := (List.getElem?_eq_some_iff.mp hj).1
  have hnumbers : i % 2 ^ 32 = j % 2 ^ 32 := by
    rw [← UInt32.toNat_ofNat', ← UInt32.toNat_ofNat', ← h.position, ← h'.position, hposition]
  rw [Nat.mod_eq_of_lt (Nat.lt_of_lt_of_le hilt hlength),
    Nat.mod_eq_of_lt (Nat.lt_of_lt_of_le hjlt hlength)] at hnumbers
  subst hnumbers
  obtain rfl := Option.some.inj (hi.symm.trans hj)
  exact h.sameEvent h'

end Envelope

/-! ## Versions of accepted changes -/

namespace Change

variable {ρ σ ε : Type}

/-- How a change is entered into a log. -/
def accepted : Change σ ε → AcceptedWrite
  | .add a => .add a.id
  | .update a => .update a.id
  | .remove a => .remove a.id

theorem stamped_id (change : Change σ ε) : change.stamped.id = change.accepted.id := by
  cases change <;> rfl

/-- What an accepted change finds, gives back and leaves. -/
inductive Takes : Change σ ε × Aggregate σ ε → Versions → Versions → Prop where
  | add {V : Versions} {a : Aggregate σ ε} (h : V a.id = none) :
    Takes (.add a, a.atVersion 1) V (Function.update V a.id (some 1))
  | update {V : Versions} {a : Aggregate σ ε} (h : V a.id = some a.version) :
    Takes (.update a, a.atVersion (a.version + 1)) V
      (Function.update V a.id (some (a.version + 1)))
  | remove {V : Versions} {a : Aggregate σ ε} (h : V a.id = some a.version) :
    Takes (.remove a, a) V (Function.update V a.id none)

section Takes

variable {write : Change σ ε × Aggregate σ ε} {V V' : Versions}

theorem Takes.leads (h : Takes write V V') : write.1.accepted.Leads V V' := by
  cases h with
  | add h => exact .add h
  | update h => exact .update h
  | remove h => exact .remove h

/-- Apart from removals the version that is given back is the one that is left. -/
theorem Takes.version_left (h : Takes write V V')
    (hkept : write.1.accepted ≠ .remove write.2.id) : V' write.2.id = some write.2.version := by
  cases h with
  | add h => exact Function.update_self _ _ _
  | update h => exact Function.update_self _ _ _
  | remove h => exact absurd rfl hkept

end Takes

variable [Repository ρ σ ε] [AggregateKind σ] [VersionGuarded ρ] {r r' : ρ}

open VersionGuarded (versions)

/-- A refused change leaves all versions, and an accepted one does to them what it `Takes`. -/
theorem versions_cases (r : ρ) (change : Change σ ε) :
    (∃ e r', change.apply r = (.error e, r') ∧ versions r' = versions r) ∨
      ∃ b r', change.apply r = (.ok b, r') ∧ Takes (change, b) (versions r) (versions r') := by
  cases change with
  | add a =>
    rcases VersionGuarded.add_cases r a with ⟨e, r', hadd, hversions⟩ | ⟨r', hadd, hnone, hversions⟩
    · exact Or.inl ⟨e, r', hadd, hversions⟩
    · exact Or.inr ⟨_, r', hadd, hversions ▸ .add hnone⟩
  | update a =>
    rcases VersionGuarded.update_cases r a with ⟨-, cause, hupdate⟩ |
      ⟨-, ⟨-, r', hupdate, hversions⟩ | ⟨v, -, -, hupdate⟩ | ⟨r', hupdate, hcurrent, hversions⟩⟩
    · exact Or.inl ⟨_, r, hupdate, rfl⟩
    · exact Or.inl ⟨_, r', hupdate, hversions⟩
    · exact Or.inl ⟨_, r, hupdate, rfl⟩
    · exact Or.inr ⟨_, r', hupdate, hversions ▸ .update hcurrent⟩
  | remove a =>
    rw [apply]
    rcases VersionGuarded.remove_cases r a.id (.exact a.version) with
      ⟨-, r', hremove, hversions⟩ | ⟨v, -, -, hremove⟩ |
      ⟨v, r', hremove, hstored, haccepts, hversions⟩
    · rw [hremove]
      exact Or.inl ⟨_, r', rfl, hversions⟩
    · rw [hremove]
      exact Or.inl ⟨_, r, rfl, rfl⟩
    · rw [hremove]
      rw [ExpectedVersion.accepts_exact.mp haccepts] at hstored
      exact Or.inr ⟨a, r', rfl, hversions ▸ .remove hstored⟩

theorem takes_of_apply {change : Change σ ε} {b : Aggregate σ ε}
    (h : change.apply r = (.ok b, r')) : Takes (change, b) (versions r) (versions r') := by
  rcases versions_cases r change with ⟨e, r'', happly, -⟩ | ⟨b', r'', happly, htakes⟩
  · cases happly.symm.trans h
  · cases happly.symm.trans h
    exact htakes

theorem versions_of_refused {change : Change σ ε} {e : RepositoryError}
    (h : change.apply r = (.error e, r')) : versions r' = versions r := by
  rcases versions_cases r change with ⟨e', r'', happly, hversions⟩ | ⟨b, r'', happly, -⟩
  · cases happly.symm.trans h
    exact hversions
  · cases happly.symm.trans h

/-- Accepted writes take the versions from one state to the next. -/
theorem History.takes {writes : List (Change σ ε × Aggregate σ ε)} (h : History r writes r') :
    Transitions Takes (versions r) writes (versions r') := by
  induction h with
  | nil => exact .nil _
  | accepted _ happly ih => exact ih.concat (takes_of_apply happly)
  | refused _ happly ih =>
    rw [versions_of_refused happly]
    exact ih

end Change

/-! ## Writes with the same version -/

namespace Change

variable {σ ε : Type} {V V' : Versions} {first last : Change σ ε × Aggregate σ ε}
  {before between after : List (Change σ ε × Aggregate σ ε)}

/-- Two writes, with fewer than `2 ^ 64` of them from the one to the other, give the aggregate `id`
back at the same version. Then it was removed by the first of them or in `between`, or the last one
removes it and nothing was done to it in between. -/
theorem removed_of_same_version
    (h : Transitions Takes V (before ++ first :: (between ++ last :: after)) V') {id : EntityId}
    (hfirstId : first.2.id = id) (hlastId : last.2.id = id)
    (hversion : first.2.version = last.2.version) (hlength : between.length + 1 < 2 ^ 64) :
    (∃ write ∈ first :: between, write.1.accepted = .remove id) ∨
      last.1.accepted = .remove id ∧ ∀ write ∈ between, write.1.accepted.id ≠ id := by
  obtain ⟨V₁, -, hrest⟩ := h.exists_of_append
  obtain ⟨V₂, hfirst, hrest⟩ := hrest.exists_of_cons
  obtain ⟨V₃, hbetween, hrest⟩ := hrest.exists_of_append
  obtain ⟨V₄, hlast, -⟩ := hrest.exists_of_cons
  by_cases hremoved : ∃ write ∈ first :: between, write.1.accepted = .remove id
  · exact Or.inl hremoved
  refine Or.inr ?_
  let log := between.map fun write => write.1.accepted
  have hevolves : Evolves V₂ log V₃ := hbetween.map fun _ _ _ => Takes.leads
  have hkept : .remove id ∉ log := by
    intro hmem
    obtain ⟨write, hwrite, heq⟩ := List.mem_map.mp hmem
    exact hremoved ⟨write, List.mem_cons_of_mem _ hwrite, heq⟩
  have hleft : V₂ id = some first.2.version := by
    rw [← hfirstId] at hremoved ⊢
    exact hfirst.version_left fun heq => hremoved ⟨first, List.mem_cons_self, heq⟩
  have hcount : log.count (.update id) + 1 < 2 ^ 64 := by
    have hle : log.count (.update id) ≤ log.length := List.count_le_length
    rw [List.length_map] at hle
    omega
  obtain ⟨change, b⟩ := last
  cases hlast with
  | @add _ a hnone =>
    obtain rfl : a.id = id := hlastId
    have hstored := hevolves.version_of_kept hleft hkept
    cases hstored.symm.trans hnone
  | @update _ a hstored =>
    -- With this update there was at least one, so the version is another one.
    obtain rfl : a.id = id := hlastId
    have hall : Evolves V₂ (log ++ [.update a.id]) _ := hevolves.concat (.update hstored)
    have hallKept : .remove a.id ∉ log ++ [.update a.id] := by simp [hkept]
    have hback : Function.update V₃ a.id (some (a.version + 1)) a.id = some first.2.version := by
      rw [Function.update_self, hversion]
      rfl
    have hnone := hall.count_of_same_version hleft hallKept hback
    rw [List.count_append, List.count_singleton_self] at hnone
    omega
  | remove hstored =>
    -- The removal finds the version of the first write, so there was no update.
    obtain rfl : b.id = id := hlastId
    rw [← hversion] at hstored
    have hnone := hevolves.count_of_same_version hleft hkept hstored
    have hsame : .update b.id ∉ log := List.count_eq_zero.mp (by omega)
    refine ⟨rfl, fun write hwrite => ?_⟩
    exact hevolves.id_ne_of_kept hleft hkept hsame _ (List.mem_map_of_mem hwrite)

end Change

theorem Change.exists_of_accepted_eq_remove {σ ε : Type} {change : Change σ ε} {id : EntityId}
    (h : change.accepted = .remove id) : ∃ a, change = .remove a ∧ a.id = id := by
  cases change with
  | add a => cases h
  | update a => cases h
  | remove a => exact ⟨a, rfl, AcceptedWrite.remove.inj h⟩

/-! ## Deliveries of entries -/

namespace Entry

variable {σ ε : Type}

/-- The entry is of an accepted write of the aggregate whose identifier has the text `id`. -/
def Writes (entry : Entry σ ε) (id : String) : Prop :=
  ∃ change a, entry.written? = some (change, a) ∧ a.id.render = id

/-- The entry is of an accepted removal of the aggregate whose identifier has the text `id`. -/
def Removes (entry : Entry σ ε) (id : String) : Prop :=
  ∃ a b, entry.written? = some (.remove a, b) ∧ a.id.render = id

theorem removes_of_accepted {entry : Entry σ ε} {write : Change σ ε × Aggregate σ ε}
    {id : EntityId} (hwritten : entry.written? = some write)
    (haccepted : write.1.accepted = .remove id) : entry.Removes id.render := by
  obtain ⟨change, b⟩ := write
  obtain ⟨a, rfl, rfl⟩ := Change.exists_of_accepted_eq_remove haccepted
  exact ⟨a, b, hwritten, rfl⟩

variable [AggregateKind σ] [DomainEvent ε]

theorem IsFaithful.eq_stamped {entry : Entry σ ε} (h : entry.IsFaithful) {change : Change σ ε}
    {a : Aggregate σ ε} (hwritten : entry.written? = some (change, a)) : a = change.stamped := by
  rcases entry with ⟨c, _ | _ | ⟨b, attempts⟩ | ⟨b, attempts, batch⟩⟩
  · cases hwritten
  · cases hwritten
  · cases hwritten
    exact h.1
  · cases hwritten
    exact h.1

/-- What the bus has accepted for an entry are envelopes with events of the written aggregate. -/
theorem IsFaithful.exists_holds {entry : Entry σ ε} (h : entry.IsFaithful) {e : Envelope}
    (he : e ∈ entry.deliveries) : ∃ a, entry.written? = some (entry.change, a) ∧
      ∃ i event, a.events.pending[i]? = some event ∧ e.Holds a i event := by
  have hstart {a : Aggregate σ ε} {envelopes : List Envelope} (hbatch : a.IsBatchStart envelopes)
      (hmem : e ∈ envelopes) : ∃ i event, a.events.pending[i]? = some event ∧ e.Holds a i event := by
    obtain ⟨i, hi⟩ := List.mem_iff_getElem?.mp hmem
    exact ⟨i, hbatch i e hi⟩
  rcases entry with ⟨change, _ | _ | ⟨a, attempts⟩ | ⟨a, attempts, batch⟩⟩
  · cases he
  · cases he
  · obtain ⟨-, hattempts⟩ := h
    obtain ⟨taken, htaken, hmem⟩ := List.mem_flatten.mp he
    exact ⟨a, rfl, hstart (hattempts taken htaken).1 hmem⟩
  · obtain ⟨-, hattempts, hbatch⟩ := h
    rcases List.mem_append.mp he with hmem | hmem
    · obtain ⟨taken, htaken, hmem⟩ := List.mem_flatten.mp hmem
      exact ⟨a, rfl, hstart (hattempts taken htaken).1 hmem⟩
    · exact ⟨a, rfl, hstart hbatch.1 hmem⟩

end Entry

namespace Ledger

variable {ρ β σ ε : Type} [AggregateKind σ] [DomainEvent ε] [Repository ρ σ ε]
  {l : Ledger ρ β σ ε} {r : ρ} {steps : List (UnitOfWork.Step σ ε)}

theorem IsSound.register_mem (h : l.IsSound r steps) {entry : Entry σ ε}
    (hentry : entry ∈ l.entries) : .register entry.change ∈ steps := by
  have hmem : entry.change ∈ l.entries.map Entry.change := List.mem_map_of_mem hentry
  rw [h.registered] at hmem
  obtain ⟨step, hstep, hregistered⟩ := List.mem_filterMap.mp hmem
  cases step with
  | register change =>
    obtain rfl := Option.some.inj hregistered
    exact hstep
  | commit => cases hregistered
  | rollback => cases hregistered

theorem IsSound.length_eq (h : l.IsSound r steps) :
    l.entries.length = (steps.filterMap UnitOfWork.Step.registered).length := by
  rw [← h.registered, List.length_map]

/-- Envelopes of one write with the same key hold the same event. -/
theorem IsSound.sameEvent (h : l.IsSound r steps)
    (hevents : ∀ change, .register change ∈ steps →
      change.stamped.events.pending.length ≤ 2 ^ 32)
    {entry : Entry σ ε} (hentry : entry ∈ l.entries) {e e' : Envelope} (he : e ∈ entry.deliveries)
    (he' : e' ∈ entry.deliveries) (hkey : e.SameKey e') : e.SameEvent e' := by
  have hfaithful := h.faithful entry hentry
  obtain ⟨a, hwritten, i, event, hi, hholds⟩ := hfaithful.exists_holds he
  obtain ⟨a', hwritten', j, event', hj, hholds'⟩ := hfaithful.exists_holds he'
  obtain rfl : a = a' := congrArg Prod.snd (Option.some.inj (hwritten.symm.trans hwritten'))
  have hlength : a.events.pending.length ≤ 2 ^ 32 := by
    rw [hfaithful.eq_stamped hwritten]
    exact hevents entry.change (h.register_mem hentry)
  exact hholds.sameEvent_of_position hholds' hi hj hlength hkey.position

/-- Different writes have envelopes with the same key only if the aggregate was removed. -/
theorem IsSound.removed_of_sameKey [VersionGuarded ρ] (h : l.IsSound r steps)
    (hwrites : (steps.filterMap UnitOfWork.Step.registered).length < 2 ^ 64)
    {before between after : List (Entry σ ε)} {first last : Entry σ ε}
    (hentries : l.entries = before ++ first :: (between ++ last :: after)) {e e' : Envelope}
    (he : e ∈ first.deliveries) (he' : e' ∈ last.deliveries) (hkey : e.SameKey e') :
    (∃ entry ∈ first :: between, entry.Removes e.aggregateId) ∨
      last.Removes e.aggregateId ∧ ∀ entry ∈ between, ¬ entry.Writes e.aggregateId := by
  have hfaithful (entry : Entry σ ε) (hmem : entry ∈ first :: (between ++ last :: after)) :
      entry.IsFaithful :=
    h.faithful entry (hentries ▸ List.mem_append_right before hmem)
  have hfirst : first ∈ first :: (between ++ last :: after) := List.mem_cons_self
  have hlast : last ∈ first :: (between ++ last :: after) :=
    List.mem_cons_of_mem _ (List.mem_append_right between List.mem_cons_self)
  obtain ⟨a, hwritten, i, event, -, hholds⟩ := (hfaithful first hfirst).exists_holds he
  obtain ⟨a', hwritten', j, event', -, hholds'⟩ := (hfaithful last hlast).exists_holds he'
  have hid : a'.id = a.id := by
    have hrender : a'.id.render = a.id.render := by
      rw [← hholds'.aggregateId, ← hholds.aggregateId, hkey.aggregateId]
    exact EntityId.render_inj hrender
  have hversion : a.version = a'.version := by
    rw [← hholds.aggregateVersion, ← hholds'.aggregateVersion, hkey.aggregateVersion]
  have hlength : (between.filterMap Entry.written?).length + 1 < 2 ^ 64 := by
    have hle := List.length_filterMap_le Entry.written? between
    have hall := h.length_eq
    rw [hentries] at hall
    simp only [List.length_append, List.length_cons] at hall
    omega
  have htakes := h.history.takes
  rw [hentries, List.filterMap_append, List.filterMap_cons_some hwritten, List.filterMap_append,
    List.filterMap_cons_some hwritten'] at htakes
  rw [hholds.aggregateId]
  rcases Change.removed_of_same_version htakes rfl hid hversion hlength with
    ⟨write, hwrite, haccepted⟩ | ⟨haccepted, huntouched⟩
  · refine Or.inl ?_
    rcases List.mem_cons.mp hwrite with rfl | hbetween
    · exact ⟨first, List.mem_cons_self, Entry.removes_of_accepted hwritten haccepted⟩
    · obtain ⟨entry, hentry, hsome⟩ := List.mem_filterMap.mp hbetween
      exact ⟨entry, List.mem_cons_of_mem _ hentry, Entry.removes_of_accepted hsome haccepted⟩
  · refine Or.inr ⟨Entry.removes_of_accepted hwritten' haccepted, ?_⟩
    rintro entry hentry ⟨change, b, hsome, hrender⟩
    have hmem : entry ∈ first :: (between ++ last :: after) :=
      List.mem_cons_of_mem _ (List.mem_append_left _ hentry)
    have hb : b = change.stamped := (hfaithful entry hmem).eq_stamped hsome
    refine huntouched (change, b) (List.mem_filterMap.mpr ⟨entry, hentry, hsome⟩) ?_
    rw [← change.stamped_id, ← hb]
    exact EntityId.render_inj hrender

end Ledger

/-! ## Runs -/

namespace UnitOfWork

variable {ρ β σ ε : Type} [EventBus β Envelope] [AggregateKind σ] [DomainEvent ε]

/-- What the keys tell about the envelopes that the bus accepts in the run of `steps` from nothing.
-/
structure TellsDeliveries [Repository ρ σ ε] (r : ρ) (d : Dispatcher β) (steps : List (Step σ ε)) :
    Prop where
  /-- The ledger of the run is about the unit of work. -/
  unitOfWork : (new r d).run steps = ((Ledger.new r d).run steps).unitOfWork
  /-- Each envelope that the bus has accepted is one of a registered write. -/
  accepted : ((Ledger.new r d).run steps).dispatcher.bus.accepted =
    ((Ledger.new r d).run steps).entries.flatMap Entry.deliveries
  /-- Two of them for the same write with the same key hold the same event. -/
  redelivered (entry : Entry σ ε) (hentry : entry ∈ ((Ledger.new r d).run steps).entries)
    (e e' : Envelope) (he : e ∈ entry.deliveries) (he' : e' ∈ entry.deliveries)
    (hkey : e.SameKey e') : e.SameEvent e'
  /-- Two of them for different writes have the same key only if the aggregate was removed by the
  first write or in between, or if the last write is the removal and was the next one of it. -/
  distinct (before between after : List (Entry σ ε)) (first last : Entry σ ε)
    (hentries : ((Ledger.new r d).run steps).entries =
      before ++ first :: (between ++ last :: after))
    (e e' : Envelope) (he : e ∈ first.deliveries) (he' : e' ∈ last.deliveries)
    (hkey : e.SameKey e') :
    (∃ entry ∈ first :: between, entry.Removes e.aggregateId) ∨
      last.Removes e.aggregateId ∧ ∀ entry ∈ between, ¬ entry.Writes e.aggregateId

theorem run_tellsDeliveries [Repository ρ σ ε] [VersionGuarded ρ] [Change.Stamping ρ] (r : ρ)
    (d : Dispatcher β) {steps : List (Step σ ε)}
    (hevents : ∀ change, .register change ∈ steps →
      change.stamped.events.pending.length ≤ 2 ^ 32)
    (hwrites : (steps.filterMap Step.registered).length < 2 ^ 64) :
    TellsDeliveries r d steps := by
  obtain ⟨hunit, hsound⟩ := run_isSound r d steps
  exact {
    unitOfWork := hunit
    accepted := hsound.accepted
    redelivered := fun _ hentry _ _ he he' hkey => hsound.sameEvent hevents hentry he he' hkey
    distinct := fun _ _ _ _ _ hentries _ _ he he' hkey =>
      hsound.removed_of_sameKey hwrites hentries he he' hkey }

variable [Record (Aggregate σ ε)] [JsonCodec (Aggregate σ ε)]

/-- In every run from nothing, over a repository in memory or one of documents with whatever it
holds, and however the bus takes it, envelopes with the same key hold the same event of the same
write, unless the aggregate was removed in the meantime or the removal is one of the two writes. As
positions have 32 bits and versions 64, so many events of an aggregate and so many writes are taken
to be more than there are. -/
theorem repeated_deliveries_are_told (d : Dispatcher β) {steps : List (Step σ ε)}
    (hevents : ∀ change, .register change ∈ steps →
      change.stamped.events.pending.length ≤ 2 ^ 32)
    (hwrites : (steps.filterMap Step.registered).length < 2 ^ 64) :
    (∀ r : MemoryRepository σ ε, TellsDeliveries r d steps) ∧
      ∀ r : DocumentRepository σ ε, TellsDeliveries r d steps :=
  ⟨fun r => run_tellsDeliveries r d hevents hwrites,
    fun r => run_tellsDeliveries r d hevents hwrites⟩

/-- The bus takes only the first one of two events. -/
theorem repeated_deliveries_are_told_customer :
    let now : Timestamp := ⟨0, 0, 0, by decide, by decide, by decide⟩
    let c : Customer := ⟨⟨⟨7, by decide⟩⟩, 0, .blank, ⟨[.registered "" now, .noted "" now]⟩⟩
    let steps := [.register (.add c), .commit, .commit]
    let d : Dispatcher (LimitedBus (BroadcastBus Envelope)) := ⟨⟨.empty, some 1⟩, ⟨0, 0⟩⟩
    let m : MemoryRepository CustomerProfile CustomerEvent := .empty
    let s : DocumentRepository CustomerProfile CustomerEvent := .empty
    (∀ change, .register change ∈ steps → change.stamped.events.pending.length ≤ 2 ^ 32) ∧
      (steps.filterMap Step.registered).length < 2 ^ 64 ∧
      TellsDeliveries m d steps ∧ TellsDeliveries s d steps := by
  intro now c steps d m s
  have hevents : ∀ change, .register change ∈ steps →
      change.stamped.events.pending.length ≤ 2 ^ 32 := by
    intro change hchange
    have hadd : change = .add c := by simpa [steps] using hchange
    subst hadd
    show 2 ≤ 2 ^ 32
    decide
  have hwrites : (steps.filterMap Step.registered).length < 2 ^ 64 := by
    show 1 < 2 ^ 64
    decide
  have htold := repeated_deliveries_are_told d hevents hwrites
  exact ⟨hevents, hwrites, htold.1 m, htold.2 s⟩

/-- A new customer is added, loaded again and removed, and then there is a new one with the same
identifier. The first event of each of the three writes has the same key. -/
theorem removal_and_new_add_share_keys :
    let id : EntityId := ⟨⟨7, by decide⟩⟩
    let early : Timestamp := ⟨0, 0, 0, by decide, by decide, by decide⟩
    let late : Timestamp := ⟨0, 1, 0, by decide, by decide, by decide⟩
    let loaded : Customer := ⟨id, 1, .blank, .empty⟩
    let first := [.register (.add ⟨id, 0, .blank, ⟨[.registered "" early]⟩⟩), .commit]
    let steps := first ++ [.register (.remove (loaded.record (.noted "" late))), .commit,
      .register (.add ⟨id, 0, .blank, ⟨[.registered "" late]⟩⟩), .commit]
    let r : MemoryRepository CustomerProfile CustomerEvent := .empty
    let d : Dispatcher (BroadcastBus Envelope) := ⟨.empty, ⟨0, 0⟩⟩
    Repository.load ((new r d).run first).repository id = .ok loaded ∧
      ∃ e₁ e₂ e₃, ((Ledger.new r d).run steps).dispatcher.bus.accepted = [e₁, e₂, e₃] ∧
        e₁.SameKey e₂ ∧ e₁.eventType ≠ e₂.eventType ∧
        e₁.SameKey e₃ ∧ e₁.occurredAt ≠ e₃.occurredAt := by
  intro id early late loaded first steps r d
  refine ⟨rfl, _, _, _, rfl, ⟨rfl, rfl, rfl⟩, ?_, ⟨rfl, rfl, rfl⟩, ?_⟩
  · decide
  · decide

end UnitOfWork

end Quarry
