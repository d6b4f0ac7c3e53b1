import Mathlib.Data.List.Induction
import Quarry.Proofs.UnitOfWork.Ledger

/-!
# What becomes of registered writes

A unit of work and a ledger that start from nothing take the same steps
(`Ledger.unitOfWork_perform`), and each step leaves the ledger sound (`Ledger.IsSound.perform`). So
after every run each registered write is staged, discarded, written or published just as the ledger
says (`UnitOfWork.every_run_isAccounted`), and what the bus has accepted is known envelope by
envelope.
-/

namespace Quarry

variable {ρ β σ ε : Type}

namespace Ledger

/-! ## Steps -/

section Steps

variable {l : Ledger ρ β σ ε}

/-- Staged writes are applied by a unit of work as its ledger enters them. -/
theorem unitOfWork_applyStaged [Repository ρ σ ε] (hord : IsOrdered l.entries) :
    l.unitOfWork.applyStaged = (l.applyStaged.1, l.applyStaged.2.unitOfWork) := by
  have hwrote := wrote_writeEntries l.repository l.entries
  obtain ⟨hrepository, hrefusal, hleft, hwritten⟩ := hwrote.applyAll hord
  simp only [UnitOfWork.applyStaged, unitOfWork, applyStaged, hrepository, hrefusal, hleft,
    hwritten]

variable [EventBus β Envelope] [AggregateKind σ] [DomainEvent ε]

/-- Written aggregates are published by a unit of work as its ledger enters them. -/
theorem unitOfWork_publishWritten (l : Ledger ρ β σ ε) :
    l.unitOfWork.publishWritten.2 = l.publishWritten.unitOfWork := by
  have hsent := sent_publishEntries l.dispatcher l.entries
  obtain ⟨hdispatcher, hleft⟩ := hsent.dispatchAll
  obtain ⟨-, -, hstaged, -⟩ := hsent.frame
  simp only [UnitOfWork.publishWritten, unitOfWork, publishWritten, hdispatcher, hleft, hstaged]
  split
  · rfl
  · rfl

variable [Repository ρ σ ε]

/-- A unit of work takes the same steps as its ledger. -/
theorem unitOfWork_perform (hord : IsOrdered l.entries) (step : UnitOfWork.Step σ ε) :
    l.unitOfWork.perform step = (l.perform step).unitOfWork := by
  cases step with
  | register change =>
    simp only [UnitOfWork.perform, UnitOfWork.register, unitOfWork, perform,
      List.filterMap_append]
    rw [show [Entry.new change].filterMap Entry.unpublished? = [] from rfl, List.append_nil]
    rfl
  | rollback =>
    have hnone : (l.entries.map Entry.discard).filterMap Entry.staged? = [] := by
      rw [List.filterMap_map]
      exact List.filterMap_eq_nil_iff.mpr fun entry _ => (discard_spec entry).2.1
    have hsame : (l.entries.map Entry.discard).filterMap Entry.unpublished? =
        l.entries.filterMap Entry.unpublished? := by
      rw [List.filterMap_map]
      exact congrArg (fun f => l.entries.filterMap f)
        (funext fun entry => (discard_spec entry).2.2.1)
    simp only [UnitOfWork.perform, UnitOfWork.rollback, unitOfWork, perform, hnone, hsame]
  | commit =>
    rw [UnitOfWork.perform, UnitOfWork.commit, unitOfWork_applyStaged hord, perform]
    rcases l.applyStaged with ⟨e | _, l'⟩
    · exact unitOfWork_publishWritten l'
    · rfl

end Steps

/-! ## Soundness -/

section Soundness

variable [Repository ρ σ ε] [AggregateKind σ] [DomainEvent ε]

/-- What the ledger `l` says after `steps` is what happened, where the repository was `r` at first.
-/
structure IsSound (l : Ledger ρ β σ ε) (r : ρ) (steps : List (UnitOfWork.Step σ ε)) : Prop where
  ordered : IsOrdered l.entries
  /-- There is one entry for each registered write, in the order of registration. -/
  registered : l.entries.map Entry.change = steps.filterMap UnitOfWork.Step.registered
  /-- The repository has accepted just the writes that are entered as written, in this order. -/
  history : Change.History r (l.entries.filterMap Entry.written?) l.repository
  /-- The bus has accepted just what the entries say, one after the other. -/
  accepted : l.dispatcher.bus.accepted = l.entries.flatMap Entry.deliveries
  faithful : ∀ entry ∈ l.entries, entry.IsFaithful

variable {l : Ledger ρ β σ ε} {r : ρ} {steps : List (UnitOfWork.Step σ ε)}

theorem isSound_new (r : ρ) (d : Dispatcher β) : (new r d : Ledger ρ β σ ε).IsSound r [] where
  ordered := trivial
  registered := rfl
  history := Change.History.nil r
  accepted := rfl
  faithful _ hentry := (List.not_mem_nil hentry).elim

/-- Applying the staged writes enters those that are accepted as written. -/
theorem IsSound.applyStaged [Change.Stamping ρ] (h : l.IsSound r steps) :
    l.applyStaged.2.IsSound r steps := by
  have hwrote := wrote_writeEntries l.repository l.entries
  obtain ⟨hchange, -, hdeliveries⟩ := hwrote.frame
  exact {
    ordered := hwrote.isOrdered h.ordered
    registered := hchange.trans h.registered
    history := hwrote.history [] h.ordered h.history
    accepted := h.accepted.trans hdeliveries.symm
    faithful := hwrote.isFaithful h.faithful }

variable [EventBus β Envelope]

/-- Publishing enters what the bus has accepted with the writes that it belongs to. -/
theorem IsSound.publishWritten (h : l.IsSound r steps) : l.publishWritten.IsSound r steps := by
  have hsent := sent_publishEntries l.dispatcher l.entries
  obtain ⟨hchange, -, -, hwritten⟩ := hsent.frame
  exact {
    ordered := hsent.isOrdered h.ordered
    registered := hchange.trans h.registered
    history := hwritten.symm ▸ h.history
    accepted := hsent.accepted [] h.ordered h.accepted
    faithful := hsent.isFaithful h.faithful }

theorem IsSound.register (h : l.IsSound r steps) (change : Change σ ε) :
    (l.perform (.register change)).IsSound r (steps ++ [.register change]) where
  ordered := h.ordered.append_staged change
  registered := by
    rw [perform, List.map_append, List.filterMap_append, h.registered]
    rfl
  history := by
    rw [perform, List.filterMap_append]
    exact (List.append_nil _).symm ▸ h.history
  accepted := by
    rw [perform, List.flatMap_append, h.accepted]
    exact (List.append_nil _).symm
  faithful entry hentry := by
    rcases List.mem_append.mp hentry with hmem | hmem
    · exact h.faithful entry hmem
    · rw [List.mem_singleton.mp hmem]
      trivial

theorem IsSound.rollback (h : l.IsSound r steps) :
    (l.perform .rollback).IsSound r (steps ++ [.rollback]) where
  ordered := h.ordered.discard
  registered := by
    have hsame : (Entry.change ∘ Entry.discard : Entry σ ε → Change σ ε) = Entry.change :=
      funext fun entry => (discard_spec entry).1
    rw [perform, List.map_map, hsame, List.filterMap_append, h.registered]
    exact (List.append_nil _).symm
  history := by
    have hsame : (Entry.written? ∘ Entry.discard : Entry σ ε → _) = Entry.written? :=
      funext fun entry => (discard_spec entry).2.2.2.1
    rw [perform, List.filterMap_map, hsame]
    exact h.history
  accepted := h.accepted.trans (flatMap_discard l.entries).symm
  faithful entry hentry := by
    obtain ⟨before, hmem, rfl⟩ := List.mem_map.mp hentry
    have hbefore := h.faithful before hmem
    rcases before with ⟨change, _ | _ | _ | _⟩
    · trivial
    · trivial
    · exact hbefore
    · exact hbefore

theorem IsSound.commit [Change.Stamping ρ] (h : l.IsSound r steps) :
    (l.perform .commit).IsSound r (steps ++ [.commit]) := by
  have hsteps : (steps ++ [UnitOfWork.Step.commit]).filterMap UnitOfWork.Step.registered =
      steps.filterMap UnitOfWork.Step.registered := by
    rw [List.filterMap_append]
    exact List.append_nil _
  have hsound : (l.perform .commit).IsSound r steps := by
    have happlied := h.applyStaged
    rw [perform]
    rcases happly : l.applyStaged with ⟨e | _, l'⟩
    · rw [happly] at happlied
      exact happlied.publishWritten
    · rw [happly] at happlied
      exact happlied
  exact { hsound with registered := hsound.registered.trans hsteps.symm }

/-- Every `step` preserves that the ledger says what happened. -/
theorem IsSound.perform [Change.Stamping ρ] (h : l.IsSound r steps)
    (step : UnitOfWork.Step σ ε) : (l.perform step).IsSound r (steps ++ [step]) := by
  cases step with
  | register change => exact h.register change
  | commit => exact h.commit
  | rollback => exact h.rollback

end Soundness

/-! ## Rollbacks -/

section Rollbacks

theorem isDiscarded_iff (entries : List (Entry σ ε)) (n : Nat) :
    (entries.map Entry.isDiscarded)[n]? = some true ↔
      ∃ change, entries[n]? = some ⟨change, .discarded⟩ := by
  rw [List.getElem?_map]
  constructor
  · intro h
    obtain ⟨entry, hentry, hdiscarded⟩ := Option.map_eq_some_iff.mp h
    rcases entry with ⟨change, _ | _ | _ | _⟩
    · cases hdiscarded
    · exact ⟨change, hentry⟩
    · cases hdiscarded
    · cases hdiscarded
  · rintro ⟨change, hentry⟩
    rw [hentry]
    rfl

variable [Repository ρ σ ε] [EventBus β Envelope] [AggregateKind σ] [DomainEvent ε]

theorem map_isDiscarded_commit (l : Ledger ρ β σ ε) :
    (l.perform .commit).entries.map Entry.isDiscarded = l.entries.map Entry.isDiscarded := by
  have hwrote := (wrote_writeEntries l.repository l.entries).frame.2.1
  rw [perform, applyStaged]
  rcases hwrite : writeEntries l.repository l.entries with ⟨e | _, r, entries⟩
  · rw [hwrite] at hwrote
    exact (sent_publishEntries l.dispatcher entries).frame.2.1.trans hwrote
  · rw [hwrite] at hwrote
    exact hwrote

/-- A `rollback` discards just the staged writes, and no other `step` discards any. -/
theorem discarded_perform_iff (l : Ledger ρ β σ ε) (step : UnitOfWork.Step σ ε) (n : Nat) :
    (∃ change, (l.perform step).entries[n]? = some ⟨change, .discarded⟩) ↔
      (∃ change, l.entries[n]? = some ⟨change, .discarded⟩) ∨
        step = .rollback ∧ ∃ change, l.entries[n]? = some ⟨change, .staged⟩ := by
  cases step with
  | register change =>
    rw [← isDiscarded_iff, ← isDiscarded_iff, perform, List.map_append]
    refine ⟨fun h => Or.inl ?_, fun h => ?_⟩
    · rcases Nat.lt_or_ge n (l.entries.map Entry.isDiscarded).length with hn | hn
      · rwa [List.getElem?_append_left hn] at h
      · rw [List.getElem?_append_right hn] at h
        obtain ⟨hlast, hnew⟩ := List.getElem?_eq_some_iff.mp h
        rw [List.getElem_map, List.getElem_singleton] at hnew
        cases hnew
    · rcases h with h | ⟨h, -⟩
      · rw [List.getElem?_append_left (List.getElem?_eq_some_iff.mp h).1]
        exact h
      · cases h
  | commit =>
    rw [← isDiscarded_iff, ← isDiscarded_iff, map_isDiscarded_commit]
    refine ⟨Or.inl, fun h => ?_⟩
    rcases h with h | ⟨h, -⟩
    · exact h
    · cases h
  | rollback =>
    have hget : (l.perform .rollback).entries[n]? = l.entries[n]?.map Entry.discard :=
      List.getElem?_map ..
    rw [hget]
    rcases l.entries[n]? with _ | ⟨change, _ | _ | _ | _⟩
    · simp
    · simp [Entry.discard]
    · simp [Entry.discard]
    · simp [Entry.discard]
    · simp [Entry.discard]

theorem run_concat (l : Ledger ρ β σ ε) (steps : List (UnitOfWork.Step σ ε))
    (step : UnitOfWork.Step σ ε) : l.run (steps ++ [step]) = (l.run steps).perform step := by
  rw [run, List.foldl_append]
  rfl

/-- What is discarded after `steps` was staged when there was a rollback. -/
theorem discarded_run_iff (r : ρ) (d : Dispatcher β) (steps : List (UnitOfWork.Step σ ε))
    (n : Nat) :
    (∃ change, ((new r d).run steps).entries[n]? = some ⟨change, .discarded⟩) ↔
      ∃ k, steps[k]? = some .rollback ∧
        ∃ change, ((new r d).run (steps.take k)).entries[n]? = some ⟨change, .staged⟩ := by
  induction steps using List.reverseRecOn with
  | nil =>
    constructor
    · rintro ⟨change, h⟩
      cases h
    · rintro ⟨k, h, -⟩
      cases h
  | append_singleton steps step ih =>
    rw [run_concat, discarded_perform_iff, ih]
    constructor
    · rintro (⟨k, hk, hstaged⟩ | ⟨rfl, hstaged⟩)
      · have hlt := (List.getElem?_eq_some_iff.mp hk).1
        refine ⟨k, (List.getElem?_append_left hlt).trans hk, ?_⟩
        rwa [List.take_append_of_le_length (Nat.le_of_lt hlt)]
      · refine ⟨steps.length, List.getElem?_concat_length, ?_⟩
        rwa [List.take_left]
    · rintro ⟨k, hk, hstaged⟩
      have hle := (List.getElem?_eq_some_iff.mp hk).1
      rw [List.length_append, List.length_singleton] at hle
      rcases Nat.lt_or_ge k steps.length with hlt | hge
      · rw [List.getElem?_append_left hlt] at hk
        rw [List.take_append_of_le_length (Nat.le_of_lt hlt)] at hstaged
        exact Or.inl ⟨k, hk, hstaged⟩
      · have heq : k = steps.length := Nat.le_antisymm (Nat.le_of_lt_succ hle) hge
        rw [heq, List.getElem?_concat_length] at hk
        rw [heq, List.take_left] at hstaged
        exact Or.inr ⟨Option.some.inj hk, hstaged⟩

end Rollbacks

end Ledger

/-! ## Deliveries -/

section Deliveries

variable [AggregateKind σ] [DomainEvent ε]

/-- A written aggregate `a` is still to be published, or the bus has its events. -/
theorem Ledger.IsSound.kept [Repository ρ σ ε] {l : Ledger ρ β σ ε} {r : ρ}
    {steps : List (UnitOfWork.Step σ ε)} (h : l.IsSound r steps) {change : Change σ ε}
    {a : Aggregate σ ε} (hwritten : (change, a) ∈ l.entries.filterMap Entry.written?) :
    a ∈ l.unitOfWork.written ∨
      ∃ batch, a.IsBatch batch ∧ batch <:+: l.dispatcher.bus.accepted := by
  obtain ⟨entry, hentry, heq⟩ := List.mem_filterMap.mp hwritten
  have hfaithful := h.faithful entry hentry
  rcases entry with ⟨c, _ | _ | ⟨b, attempts⟩ | ⟨b, attempts, batch⟩⟩
  · cases heq
  · cases heq
  · cases heq
    exact Or.inl (List.mem_filterMap.mpr ⟨_, hentry, rfl⟩)
  · cases heq
    refine Or.inr ⟨batch, hfaithful.2.2, ?_⟩
    rw [h.accepted]
    have hsuffix : batch <:+ Entry.deliveries ⟨change, .published a attempts batch⟩ :=
      List.suffix_append _ _
    rw [List.flatMap_def]
    exact hsuffix.isInfix.trans (List.infix_of_mem_flatten (List.mem_map_of_mem hentry))

/-- Without a failed attempt, all events of a write have been delivered or none. -/
theorem Entry.IsFaithful.deliveries_of_no_attempts {entry : Entry σ ε} (h : entry.IsFaithful)
    (hnone : entry.attempts = []) :
    entry.deliveries = [] ∨ entry.change.stamped.IsBatch entry.deliveries := by
  rcases entry with ⟨c, _ | _ | ⟨b, attempts⟩ | ⟨b, attempts, batch⟩⟩
  · exact Or.inl rfl
  · exact Or.inl rfl
  · refine Or.inl ?_
    show attempts.flatten = []
    rw [show attempts = [] from hnone]
    rfl
  · refine Or.inr ?_
    obtain ⟨hstamped, -, hbatch⟩ := h
    show c.stamped.IsBatch (attempts.flatten ++ batch)
    rw [show attempts = [] from hnone, ← hstamped]
    exact hbatch

end Deliveries

/-! ## Accounting for a run -/

namespace UnitOfWork

variable [EventBus β Envelope] [AggregateKind σ] [DomainEvent ε]

/-- What has become of the writes that were registered in the run of `steps` from nothing. -/
structure RunIsAccounted [Repository ρ σ ε] (r : ρ) (d : Dispatcher β) (steps : List (Step σ ε)) :
    Prop where
  /-- The unit of work is the one that the ledger is about: what it has staged and what it still
  has to publish is entered as such, the latter with the aggregates as they were stored. -/
  unitOfWork : (new r d).run steps = ((Ledger.new r d).run steps).unitOfWork
  sound : ((Ledger.new r d).run steps).IsSound r steps
  /-- What is entered as discarded is what was staged when there was a rollback. -/
  discarded (n : Nat) : (∃ change, ((Ledger.new r d).run steps).entries[n]? =
      some ⟨change, .discarded⟩) ↔
    ∃ k, steps[k]? = some .rollback ∧
      ∃ change, ((Ledger.new r d).run (steps.take k)).entries[n]? = some ⟨change, .staged⟩
  /-- No event of a written aggregate is lost: the aggregate is still to be published, or the bus
  has accepted all its events one behind the other. -/
  kept (change : Change σ ε) (a : Aggregate σ ε)
    (hwritten : (change, a) ∈ ((Ledger.new r d).run steps).entries.filterMap Entry.written?) :
    a ∈ ((new r d).run steps).written ∨
      ∃ batch, a.IsBatch batch ∧ batch <:+: ((Ledger.new r d).run steps).dispatcher.bus.accepted
  /-- If no attempt to publish the events of an aggregate has failed, the bus has accepted no event
  of it or each one once. -/
  once (entry : Entry σ ε) (hentry : entry ∈ ((Ledger.new r d).run steps).entries)
    (hnone : entry.attempts = []) :
    entry.deliveries = [] ∨ entry.change.stamped.IsBatch entry.deliveries

/-- In a run from nothing the unit of work stays the one that its ledger is about, and the ledger
stays sound. -/
theorem run_isSound [Repository ρ σ ε] [Change.Stamping ρ] (r : ρ) (d : Dispatcher β)
    (steps : List (Step σ ε)) :
    (new r d).run steps = ((Ledger.new r d).run steps).unitOfWork ∧
      ((Ledger.new r d).run steps).IsSound r steps := by
  induction steps using List.reverseRecOn with
  | nil => exact ⟨rfl, Ledger.isSound_new r d⟩
  | append_singleton steps step ih =>
    rw [run_concat, ih.1, Ledger.run_concat]
    exact ⟨Ledger.unitOfWork_perform ih.2.ordered step, ih.2.perform step⟩

theorem run_isAccounted [Repository ρ σ ε] [Change.Stamping ρ] (r : ρ) (d : Dispatcher β)
    (steps : List (Step σ ε)) : RunIsAccounted r d steps := by
  obtain ⟨hunit, hsound⟩ := run_isSound r d steps
  refine ⟨hunit, hsound, Ledger.discarded_run_iff r d steps, fun change a hwritten => ?_,
    fun entry hentry hnone => (hsound.faithful entry hentry).deliveries_of_no_attempts hnone⟩
  rw [hunit]
  exact hsound.kept hwritten

variable [Record (Aggregate σ ε)] [JsonCodec (Aggregate σ ε)]

/-- In every run of `steps` from nothing, over a repository in memory or one of documents with
whatever it holds, and however the bus takes it, all that was registered is accounted for. -/
theorem every_run_isAccounted (d : Dispatcher β) (steps : List (Step σ ε)) :
    (∀ r : MemoryRepository σ ε, RunIsAccounted r d steps) ∧
      ∀ r : DocumentRepository σ ε, RunIsAccounted r d steps :=
  ⟨fun r => run_isAccounted r d steps, fun r => run_isAccounted r d steps⟩

end UnitOfWork

end Quarry
