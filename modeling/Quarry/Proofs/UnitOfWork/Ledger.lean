import Quarry.Proofs.Event.Delivery
import Quarry.Proofs.UnitOfWork.Writing

/-!
# Ledgers of registered writes

A ledger is kept beside a run of a unit of work. It has one entry for each registered write, in the
order of registration, and says where the write stands: it is staged, it was discarded, it is
written and its events are still to be published, or they are published. For a written one it also
says what the bus accepted in each attempt to publish its events.

The unit of work can be read off the ledger at any point of a run (`Ledger.unitOfWork`). What
carries this through a commit is the order of the entries (`Ledger.IsOrdered`): behind a staged
write there are only staged ones, and the bus got nothing for the writes behind an unpublished one.
-/

namespace Quarry

variable {ρ β σ ε : Type}

/-! ## Runs -/

namespace UnitOfWork

/-- What is done with a unit of work. -/
inductive Step (σ ε : Type) where
  | register (change : Change σ ε)
  | commit
  | rollback

/-- The write that a step registers, if it does. -/
def Step.registered : Step σ ε → Option (Change σ ε)
  | .register change => some change
  | .commit => none
  | .rollback => none

variable [Repository ρ σ ε] [EventBus β Envelope] [AggregateKind σ] [DomainEvent ε]

/-- The unit of work after a step. -/
def perform (u : UnitOfWork ρ β σ ε) : Step σ ε → UnitOfWork ρ β σ ε
  | .register change => u.register change
  | .commit => u.commit.2
  | .rollback => u.rollback

/-- The unit of work after `steps`, one after the other. -/
def run (u : UnitOfWork ρ β σ ε) (steps : List (Step σ ε)) : UnitOfWork ρ β σ ε :=
  steps.foldl perform u

/-- A run with a further `step` is the run before it and then this step. -/
theorem run_concat (u : UnitOfWork ρ β σ ε) (steps : List (Step σ ε)) (step : Step σ ε) :
    u.run (steps ++ [step]) = (u.run steps).perform step := by
  rw [run, List.foldl_append]
  rfl

end UnitOfWork

/-! ## Entries -/

/-- Where a registered write stands. A written one has the aggregate `a` that the repository gave
back, and the envelopes that the bus accepted in each failed attempt to publish its events. -/
inductive Standing (σ ε : Type) where
  | staged
  | discarded
  | unpublished (a : Aggregate σ ε) (attempts : List (List Envelope))
  | published (a : Aggregate σ ε) (attempts : List (List Envelope)) (batch : List Envelope)

/-- A registered write with its `standing`. -/
structure Entry (σ ε : Type) where
  change : Change σ ε
  standing : Standing σ ε

namespace Entry

/-- The entry of a write when it is registered. -/
def new (change : Change σ ε) : Entry σ ε :=
  ⟨change, .staged⟩

/-- The write of an entry, if it is staged. -/
def staged? : Entry σ ε → Option (Change σ ε)
  | ⟨change, .staged⟩ => some change
  | _ => none

/-- The aggregate of an entry, if it is still to be published. -/
def unpublished? : Entry σ ε → Option (Aggregate σ ε)
  | ⟨_, .unpublished a _⟩ => some a
  | _ => none

/-- The write of an entry and what the repository gave back, if it is written. -/
def written? : Entry σ ε → Option (Change σ ε × Aggregate σ ε)
  | ⟨change, .unpublished a _⟩ => some (change, a)
  | ⟨change, .published a _ _⟩ => some (change, a)
  | _ => none

/-- The envelopes that the bus has accepted for an entry, in order. -/
def deliveries : Entry σ ε → List Envelope
  | ⟨_, .staged⟩ => []
  | ⟨_, .discarded⟩ => []
  | ⟨_, .unpublished _ attempts⟩ => attempts.flatten
  | ⟨_, .published _ attempts batch⟩ => attempts.flatten ++ batch

/-- The failed attempts to publish the events of an entry. -/
def attempts : Entry σ ε → List (List Envelope)
  | ⟨_, .staged⟩ => []
  | ⟨_, .discarded⟩ => []
  | ⟨_, .unpublished _ attempts⟩ => attempts
  | ⟨_, .published _ attempts _⟩ => attempts

/-- Whether a rollback has discarded the write of an entry. -/
def isDiscarded : Entry σ ε → Bool
  | ⟨_, .discarded⟩ => true
  | _ => false

/-- A staged write becomes a discarded one. -/
def discard : Entry σ ε → Entry σ ε
  | ⟨change, .staged⟩ => ⟨change, .discarded⟩
  | entry => entry

variable [AggregateKind σ] [DomainEvent ε]

/-- What the bus accepted for a written aggregate: it was stored with all its pending events, each
failed attempt delivered a part of the batch of these, and the last one the whole of it. -/
def IsFaithful : Entry σ ε → Prop
  | ⟨_, .staged⟩ => True
  | ⟨_, .discarded⟩ => True
  | ⟨change, .unpublished a attempts⟩ =>
    a = change.stamped ∧ ∀ taken ∈ attempts, a.IsPartialBatch taken
  | ⟨change, .published a attempts batch⟩ =>
    a = change.stamped ∧ (∀ taken ∈ attempts, a.IsPartialBatch taken) ∧ a.IsBatch batch

end Entry

/-! ## Ledgers -/

/-- A unit of work whose registered writes have `entries`, the oldest first, over a bus that keeps
what it accepts. -/
structure Ledger (ρ β σ ε : Type) where
  repository : ρ
  dispatcher : Dispatcher (RecordingBus β)
  entries : List (Entry σ ε)

namespace Ledger

/-- Applies the staged writes, up to the first one that is refused. -/
def writeEntries [Repository ρ σ ε] :
    ρ → List (Entry σ ε) → Option RepositoryError × ρ × List (Entry σ ε)
  | r, [] => (none, r, [])
  | r, ⟨change, .staged⟩ :: rest =>
    match change.apply r with
    | (.ok a, r) =>
      let (refusal, r, rest) := writeEntries r rest
      (refusal, r, ⟨change, .unpublished a []⟩ :: rest)
    | (.error e, r) => (some e, r, ⟨change, .staged⟩ :: rest)
  | r, entry :: rest =>
    let (refusal, r, rest) := writeEntries r rest
    (refusal, r, entry :: rest)

variable [EventBus β Envelope] [AggregateKind σ] [DomainEvent ε]

/-- Publishes the events of the written aggregates, up to the first failure. -/
def publishEntries : Dispatcher (RecordingBus β) → List (Entry σ ε) →
    Dispatcher (RecordingBus β) × List (Entry σ ε)
  | d, [] => (d, [])
  | d, ⟨change, .unpublished a attempts⟩ :: rest =>
    match d.dispatch a with
    | ⟨.ok batch, _, d'⟩ =>
      let (d', rest) := publishEntries d' rest
      (d', ⟨change, .published a attempts batch⟩ :: rest)
    | ⟨.error _, _, d'⟩ =>
      let taken := d'.bus.accepted.drop d.bus.accepted.length
      (d', ⟨change, .unpublished a (attempts ++ [taken])⟩ :: rest)
  | d, entry :: rest =>
    let (d, rest) := publishEntries d rest
    (d, entry :: rest)

/-- The ledger in which nothing is registered. -/
def new (repository : ρ) (d : Dispatcher β) : Ledger ρ β σ ε :=
  ⟨repository, ⟨⟨d.bus, []⟩, d.ids⟩, []⟩

/-- The unit of work that `l` is about. -/
def unitOfWork (l : Ledger ρ β σ ε) : UnitOfWork ρ β σ ε where
  repository := l.repository
  dispatcher := l.dispatcher.forget
  staged := l.entries.filterMap Entry.staged?
  written := l.entries.filterMap Entry.unpublished?

/-- The ledger after an attempt to publish everything. -/
def publishWritten (l : Ledger ρ β σ ε) : Ledger ρ β σ ε :=
  let (d, entries) := publishEntries l.dispatcher l.entries
  ⟨l.repository, d, entries⟩

variable [Repository ρ σ ε]

/-- Why a staged write was refused, if one was, and the ledger after applying the others. -/
def applyStaged (l : Ledger ρ β σ ε) : Option RepositoryError × Ledger ρ β σ ε :=
  let (refusal, r, entries) := writeEntries l.repository l.entries
  (refusal, ⟨r, l.dispatcher, entries⟩)

/-- The ledger after a step. -/
def perform (l : Ledger ρ β σ ε) : UnitOfWork.Step σ ε → Ledger ρ β σ ε
  | .register change => { l with entries := l.entries ++ [Entry.new change] }
  | .rollback => { l with entries := l.entries.map Entry.discard }
  | .commit =>
    match l.applyStaged with
    | (some _, l) => l
    | (none, l) => l.publishWritten

/-- The ledger after `steps`, one after the other. -/
def run (l : Ledger ρ β σ ε) (steps : List (UnitOfWork.Step σ ε)) : Ledger ρ β σ ε :=
  steps.foldl perform l

end Ledger

/-! ## The order of the entries -/

namespace Ledger

/-- Behind a staged write there are only staged ones, and the bus has accepted nothing for the
writes behind one that is not published yet. -/
def IsOrdered : List (Entry σ ε) → Prop
  | [] => True
  | entry :: rest =>
    (entry.staged?.isSome → ∀ other ∈ rest, other.staged?.isSome) ∧
      (entry.unpublished?.isSome → rest.flatMap Entry.deliveries = []) ∧ IsOrdered rest

theorem filterMap_of_staged {entries : List (Entry σ ε)}
    (h : ∀ entry ∈ entries, entry.staged?.isSome) :
    entries.filterMap Entry.unpublished? = [] ∧ entries.filterMap Entry.written? = [] := by
  have hnone (entry : Entry σ ε) (hentry : entry ∈ entries) :
      entry.unpublished? = none ∧ entry.written? = none := by
    have hstaged := h entry hentry
    rcases entry with ⟨change, _ | _ | _ | _⟩
    · exact ⟨rfl, rfl⟩
    · cases hstaged
    · cases hstaged
    · cases hstaged
  exact ⟨List.filterMap_eq_nil_iff.mpr fun entry hentry => (hnone entry hentry).1,
    List.filterMap_eq_nil_iff.mpr fun entry hentry => (hnone entry hentry).2⟩

theorem IsOrdered.append_staged {entries : List (Entry σ ε)} (h : IsOrdered entries)
    (change : Change σ ε) : IsOrdered (entries ++ [Entry.new change]) := by
  induction entries with
  | nil => exact ⟨fun _ other hother => (List.not_mem_nil hother).elim, fun _ => rfl, trivial⟩
  | cons entry rest ih =>
    obtain ⟨hstaged, hunpublished, hrest⟩ := h
    refine ⟨fun hs other hother => ?_, fun hu => ?_, ih hrest⟩
    · rcases List.mem_append.mp hother with hmem | hmem
      · exact hstaged hs other hmem
      · rw [List.mem_singleton.mp hmem]
        rfl
    · rw [List.append_eq, List.flatMap_append, hunpublished hu]
      rfl

/-- Nothing but where a staged write stands is changed by `discard`. -/
theorem discard_spec (entry : Entry σ ε) :
    entry.discard.change = entry.change ∧ entry.discard.staged? = none ∧
      entry.discard.unpublished? = entry.unpublished? ∧
      entry.discard.written? = entry.written? ∧ entry.discard.deliveries = entry.deliveries := by
  rcases entry with ⟨change, _ | _ | _ | _⟩
  · exact ⟨rfl, rfl, rfl, rfl, rfl⟩
  · exact ⟨rfl, rfl, rfl, rfl, rfl⟩
  · exact ⟨rfl, rfl, rfl, rfl, rfl⟩
  · exact ⟨rfl, rfl, rfl, rfl, rfl⟩

theorem flatMap_discard (entries : List (Entry σ ε)) :
    (entries.map Entry.discard).flatMap Entry.deliveries = entries.flatMap Entry.deliveries := by
  rw [List.flatMap_map]
  exact congrArg (fun f => entries.flatMap f) (funext fun entry => (discard_spec entry).2.2.2.2)

theorem IsOrdered.discard {entries : List (Entry σ ε)} (h : IsOrdered entries) :
    IsOrdered (entries.map Entry.discard) := by
  induction entries with
  | nil => exact h
  | cons entry rest ih =>
    obtain ⟨-, hunpublished, hrest⟩ := h
    obtain ⟨-, hstaged, hsame, -, -⟩ := discard_spec entry
    refine ⟨fun hs => ?_, fun hu => ?_, ih hrest⟩
    · rw [hstaged] at hs
      cases hs
    · rw [flatMap_discard]
      exact hunpublished (hsame ▸ hu)

end Ledger

/-! ## Writing -/

namespace Change

/-- A repository gets from one state to another by writes that it accepts and by writes that it
refuses. The accepted ones are listed, the last one at the end, with what the repository gave back.
-/
inductive History [Repository ρ σ ε] : ρ → List (Change σ ε × Aggregate σ ε) → ρ → Prop where
  | nil (r : ρ) : History r [] r
  | accepted {r r₁ r₂ : ρ} {writes : List (Change σ ε × Aggregate σ ε)} {change : Change σ ε}
      {a : Aggregate σ ε} (h : History r writes r₁) (happly : change.apply r₁ = (.ok a, r₂)) :
      History r (writes ++ [(change, a)]) r₂
  | refused {r r₁ r₂ : ρ} {writes : List (Change σ ε × Aggregate σ ε)} {change : Change σ ε}
      {e : RepositoryError} (h : History r writes r₁) (happly : change.apply r₁ = (.error e, r₂)) :
      History r writes r₂

end Change

namespace Ledger

section Writing

variable [Repository ρ σ ε]

/-- What `writeEntries` does, entry by entry. -/
inductive Wrote :
    ρ → List (Entry σ ε) → Option RepositoryError → ρ → List (Entry σ ε) → Prop where
  | nil (r : ρ) : Wrote r [] none r []
  | accepted {r r₁ r₂ : ρ} {change : Change σ ε} {a : Aggregate σ ε} {rest rest' : List (Entry σ ε)}
      {refusal : Option RepositoryError} (happly : change.apply r = (.ok a, r₁))
      (hrest : Wrote r₁ rest refusal r₂ rest') :
      Wrote r (⟨change, .staged⟩ :: rest) refusal r₂ (⟨change, .unpublished a []⟩ :: rest')
  | refused {r r₁ : ρ} {change : Change σ ε} {e : RepositoryError} {rest : List (Entry σ ε)}
      (happly : change.apply r = (.error e, r₁)) :
      Wrote r (⟨change, .staged⟩ :: rest) (some e) r₁ (⟨change, .staged⟩ :: rest)
  | other {r r' : ρ} {entry : Entry σ ε} {rest rest' : List (Entry σ ε)}
      {refusal : Option RepositoryError} (hentry : entry.staged? = none)
      (hrest : Wrote r rest refusal r' rest') :
      Wrote r (entry :: rest) refusal r' (entry :: rest')

/-- What `writeEntries` does is described by `Wrote`. -/
theorem wrote_writeEntries (r : ρ) (entries : List (Entry σ ε)) :
    Wrote r entries (writeEntries r entries).1 (writeEntries r entries).2.1
      (writeEntries r entries).2.2 := by
  induction entries generalizing r with
  | nil => exact Wrote.nil r
  | cons entry rest ih =>
    rcases entry with ⟨change, _ | _ | _ | _⟩
    · rw [writeEntries]
      rcases happly : change.apply r with ⟨e | a, r₁⟩
      · exact Wrote.refused happly
      · exact Wrote.accepted happly (ih r₁)
    · exact Wrote.other rfl (ih r)
    · exact Wrote.other rfl (ih r)
    · exact Wrote.other rfl (ih r)

variable {r r' : ρ} {entries entries' : List (Entry σ ε)} {refusal : Option RepositoryError}

/-- Only where writes stand is changed by applying them, and nothing is delivered. -/
theorem Wrote.frame (h : Wrote r entries refusal r' entries') :
    entries'.map Entry.change = entries.map Entry.change ∧
      entries'.map Entry.isDiscarded = entries.map Entry.isDiscarded ∧
      entries'.flatMap Entry.deliveries = entries.flatMap Entry.deliveries := by
  induction h with
  | nil r => exact ⟨rfl, rfl, rfl⟩
  | accepted happly hrest ih =>
    exact ⟨congrArg (_ :: ·) ih.1, congrArg (_ :: ·) ih.2.1, ih.2.2⟩
  | refused happly => exact ⟨rfl, rfl, rfl⟩
  | other hentry hrest ih =>
    exact ⟨congrArg (_ :: ·) ih.1, congrArg (_ :: ·) ih.2.1, congrArg (_ ++ ·) ih.2.2⟩

theorem Wrote.isOrdered (h : Wrote r entries refusal r' entries') (hord : IsOrdered entries) :
    IsOrdered entries' := by
  induction h with
  | nil r => exact hord
  | accepted happly hrest ih =>
    obtain ⟨hstaged, -, hord⟩ := hord
    refine ⟨(fun hs => nomatch hs), fun _ => ?_, ih hord⟩
    rw [hrest.frame.2.2, List.flatMap_eq_nil_iff]
    intro other hother
    have hs := hstaged rfl other hother
    rcases other with ⟨change, _ | _ | _ | _⟩
    · rfl
    · cases hs
    · cases hs
    · cases hs
  | refused happly => exact hord
  | other hentry hrest ih =>
    obtain ⟨-, hunpublished, hord⟩ := hord
    refine ⟨fun hs => ?_, fun hu => ?_, ih hord⟩
    · rw [hentry] at hs
      cases hs
    · rw [hrest.frame.2.2]
      exact hunpublished hu

/-- Entries in order come to what comes of applying the staged writes among them. -/
theorem Wrote.applyAll (h : Wrote r entries refusal r' entries') (hord : IsOrdered entries) :
    (Change.applyAll r (entries.filterMap Entry.staged?)).repository = r' ∧
      (Change.applyAll r (entries.filterMap Entry.staged?)).refusal = refusal ∧
      (Change.applyAll r (entries.filterMap Entry.staged?)).left =
        entries'.filterMap Entry.staged? ∧
      entries.filterMap Entry.unpublished? ++
        (Change.applyAll r (entries.filterMap Entry.staged?)).written =
        entries'.filterMap Entry.unpublished? := by
  induction h with
  | nil r => exact ⟨rfl, rfl, rfl, rfl⟩
  | @accepted r r₁ r₂ change a rest rest' refusal happly hrest ih =>
    obtain ⟨hstaged, -, hord⟩ := hord
    obtain ⟨hrepository, hrefusal, hleft, hwritten⟩ := ih hord
    have hfirst : (⟨change, .staged⟩ :: rest : List (Entry σ ε)).filterMap Entry.staged? =
        change :: rest.filterMap Entry.staged? := rfl
    have hnone : (⟨change, .staged⟩ :: rest : List (Entry σ ε)).filterMap Entry.unpublished? =
        rest.filterMap Entry.unpublished? := rfl
    rw [hfirst, hnone, Change.applyAll, happly]
    refine ⟨hrepository, hrefusal, hleft, ?_⟩
    rw [(filterMap_of_staged (hstaged rfl)).1] at hwritten ⊢
    exact congrArg (a :: ·) hwritten
  | @refused r r₁ change e rest happly =>
    have hfirst : (⟨change, .staged⟩ :: rest : List (Entry σ ε)).filterMap Entry.staged? =
        change :: rest.filterMap Entry.staged? := rfl
    rw [hfirst, Change.applyAll, happly]
    exact ⟨rfl, rfl, rfl, List.append_nil _⟩
  | other hentry hrest ih =>
    obtain ⟨-, -, hord⟩ := hord
    obtain ⟨hrepository, hrefusal, hleft, hwritten⟩ := ih hord
    rw [List.filterMap_cons_none hentry, List.filterMap_cons_none hentry]
    refine ⟨hrepository, hrefusal, hleft, ?_⟩
    rw [List.filterMap_cons, List.filterMap_cons]
    split
    · exact hwritten
    · exact congrArg (_ :: ·) hwritten

/-- The written entries are the writes that the repository accepts. -/
theorem Wrote.history {r₀ : ρ} (h : Wrote r entries refusal r' entries')
    (writes : List (Change σ ε × Aggregate σ ε)) (hord : IsOrdered entries)
    (hhistory : Change.History r₀ (writes ++ entries.filterMap Entry.written?) r) :
    Change.History r₀ (writes ++ entries'.filterMap Entry.written?) r' := by
  induction h generalizing writes with
  | nil r => exact hhistory
  | @accepted r r₁ r₂ change a rest rest' refusal happly hrest ih =>
    obtain ⟨hstaged, -, hord⟩ := hord
    have hnone : (⟨change, .staged⟩ :: rest : List (Entry σ ε)).filterMap Entry.written? =
        rest.filterMap Entry.written? := rfl
    have hnew : (⟨change, .unpublished a []⟩ :: rest' : List (Entry σ ε)).filterMap Entry.written? =
        [(change, a)] ++ rest'.filterMap Entry.written? := rfl
    rw [hnone, (filterMap_of_staged (hstaged rfl)).2, List.append_nil] at hhistory
    rw [hnew, ← List.append_assoc]
    refine ih _ hord ?_
    rw [(filterMap_of_staged (hstaged rfl)).2, List.append_nil]
    exact hhistory.accepted happly
  | refused happly => exact hhistory.refused happly
  | @other r r' entry rest rest' refusal hentry hrest ih =>
    obtain ⟨-, -, hord⟩ := hord
    have hsplit (others : List (Entry σ ε)) : (entry :: others).filterMap Entry.written? =
        entry.written?.toList ++ others.filterMap Entry.written? := by
      rw [List.filterMap_cons]
      cases entry.written? with
      | none => rfl
      | some write => rfl
    rw [hsplit, ← List.append_assoc] at hhistory ⊢
    exact ih _ hord hhistory

theorem Wrote.isFaithful [Change.Stamping ρ] [AggregateKind σ] [DomainEvent ε]
    (h : Wrote r entries refusal r' entries') (hall : ∀ entry ∈ entries, entry.IsFaithful) :
    ∀ entry ∈ entries', entry.IsFaithful := by
  induction h with
  | nil r => exact hall
  | accepted happly hrest ih =>
    rw [List.forall_mem_cons] at hall ⊢
    refine ⟨⟨Change.Stamping.eq_stamped happly, fun taken htaken => ?_⟩, ih hall.2⟩
    exact (List.not_mem_nil htaken).elim
  | refused happly => exact hall
  | other hentry hrest ih =>
    rw [List.forall_mem_cons] at hall ⊢
    exact ⟨hall.1, ih hall.2⟩

end Writing

/-! ## Publishing -/

section Publishing

variable [EventBus β Envelope] [AggregateKind σ] [DomainEvent ε]

/-- What `publishEntries` does, entry by entry. -/
inductive Sent : Dispatcher (RecordingBus β) → List (Entry σ ε) → Dispatcher (RecordingBus β) →
    List (Entry σ ε) → Prop where
  | nil (d : Dispatcher (RecordingBus β)) : Sent d [] d []
  | published {d d' : Dispatcher (RecordingBus β)} {change : Change σ ε} {a : Aggregate σ ε}
      {attempts : List (List Envelope)} {batch : List Envelope} {rest rest' : List (Entry σ ε)}
      (hsent : (d.dispatch a).outcome = .ok batch) (hbatch : a.IsBatch batch)
      (hbus : (d.dispatch a).dispatcher.bus.accepted = d.bus.accepted ++ batch)
      (hrest : Sent (d.dispatch a).dispatcher rest d' rest') :
      Sent d (⟨change, .unpublished a attempts⟩ :: rest) d'
        (⟨change, .published a attempts batch⟩ :: rest')
  | failed {d : Dispatcher (RecordingBus β)} {change : Change σ ε} {a : Aggregate σ ε}
      {attempts : List (List Envelope)} {e : PublishError} {taken : List Envelope}
      {rest : List (Entry σ ε)} (hfailed : (d.dispatch a).outcome = .error e)
      (hkept : (d.dispatch a).aggregate = a) (htaken : a.IsPartialBatch taken)
      (hbus : (d.dispatch a).dispatcher.bus.accepted = d.bus.accepted ++ taken) :
      Sent d (⟨change, .unpublished a attempts⟩ :: rest) (d.dispatch a).dispatcher
        (⟨change, .unpublished a (attempts ++ [taken])⟩ :: rest)
  | other {d d' : Dispatcher (RecordingBus β)} {entry : Entry σ ε} {rest rest' : List (Entry σ ε)}
      (hentry : entry.unpublished? = none) (hrest : Sent d rest d' rest') :
      Sent d (entry :: rest) d' (entry :: rest')

/-- What `publishEntries` does is described by `Sent`. -/
theorem sent_publishEntries (d : Dispatcher (RecordingBus β)) (entries : List (Entry σ ε)) :
    Sent d entries (publishEntries d entries).1 (publishEntries d entries).2 := by
  induction entries generalizing d with
  | nil => exact Sent.nil d
  | cons entry rest ih =>
    rcases entry with ⟨change, _ | _ | ⟨a, attempts⟩ | _⟩
    · exact Sent.other rfl (ih d)
    · exact Sent.other rfl (ih d)
    · rw [publishEntries]
      have hcases := d.dispatch_accepted a
      have hih := ih (d.dispatch a).dispatcher
      rcases hcases with ⟨batch, hsent, hbatch, hbus⟩ | ⟨e, taken, hfailed, hkept, htaken, hbus⟩
      · have h : Sent d (⟨change, .unpublished a attempts⟩ :: rest) _
            (⟨change, .published a attempts batch⟩ :: _) := Sent.published hsent hbatch hbus hih
        rcases hdispatch : d.dispatch a with ⟨outcome, a', d'⟩
        rw [hdispatch] at h hsent
        cases hsent
        exact h
      · have h : Sent d (⟨change, .unpublished a attempts⟩ :: rest) _
            (⟨change, .unpublished a (attempts ++ [taken])⟩ :: rest) :=
          Sent.failed hfailed hkept htaken hbus
        have hdrop : (d.dispatch a).dispatcher.bus.accepted.drop d.bus.accepted.length = taken := by
          rw [hbus, List.drop_left]
        rw [← hdrop] at h
        rcases hdispatch : d.dispatch a with ⟨outcome, a', d'⟩
        rw [hdispatch] at h hfailed
        cases hfailed
        exact h
    · exact Sent.other rfl (ih d)

variable {d d' : Dispatcher (RecordingBus β)} {entries entries' : List (Entry σ ε)}

theorem Sent.frame (h : Sent d entries d' entries') :
    entries'.map Entry.change = entries.map Entry.change ∧
      entries'.map Entry.isDiscarded = entries.map Entry.isDiscarded ∧
      entries'.filterMap Entry.staged? = entries.filterMap Entry.staged? ∧
      entries'.filterMap Entry.written? = entries.filterMap Entry.written? := by
  induction h with
  | nil d => exact ⟨rfl, rfl, rfl, rfl⟩
  | published hsent hbatch hbus hrest ih =>
    obtain ⟨hchange, hdiscarded, hstaged, hwritten⟩ := ih
    exact ⟨congrArg (_ :: ·) hchange, congrArg (_ :: ·) hdiscarded, hstaged,
      congrArg (_ :: ·) hwritten⟩
  | failed hfailed hkept htaken hbus => exact ⟨rfl, rfl, rfl, rfl⟩
  | other hentry hrest ih =>
    obtain ⟨hchange, hdiscarded, hstaged, hwritten⟩ := ih
    refine ⟨congrArg (_ :: ·) hchange, congrArg (_ :: ·) hdiscarded, ?_, ?_⟩
    · rw [List.filterMap_cons, List.filterMap_cons, hstaged]
    · rw [List.filterMap_cons, List.filterMap_cons, hwritten]

/-- What the bus gets is what the entries say, provided that they are in order. -/
theorem Sent.accepted (h : Sent d entries d' entries') (before : List Envelope)
    (hord : IsOrdered entries)
    (hbefore : d.bus.accepted = before ++ entries.flatMap Entry.deliveries) :
    d'.bus.accepted = before ++ entries'.flatMap Entry.deliveries := by
  induction h generalizing before with
  | nil d => exact hbefore
  | @published d d' change a attempts batch rest rest' hsent hbatch hbus hrest ih =>
    obtain ⟨-, hunpublished, hord⟩ := hord
    have hfirst : d.bus.accepted = before ++ attempts.flatten := by
      rw [hbefore, List.flatMap_cons, hunpublished rfl, List.append_nil]
      rfl
    have hlast : (d.dispatch a).dispatcher.bus.accepted =
        (before ++ (attempts.flatten ++ batch)) ++ rest.flatMap Entry.deliveries := by
      rw [hbus, hfirst, hunpublished rfl, List.append_nil, List.append_assoc]
    rw [ih _ hord hlast, List.append_assoc]
    rfl
  | @failed d change a attempts e taken rest hfailed hkept htaken hbus =>
    have hnone := hord.2.1 rfl
    rw [List.flatMap_cons, hnone, List.append_nil] at hbefore ⊢
    rw [hbus, hbefore, List.append_assoc]
    refine congrArg (before ++ ·) ?_
    show attempts.flatten ++ taken = (attempts ++ [taken]).flatten
    rw [List.flatten_append, List.flatten_singleton]
  | other hentry hrest ih =>
    rw [List.flatMap_cons, ← List.append_assoc] at hbefore ⊢
    exact ih _ hord.2.2 hbefore

theorem Sent.all_staged (h : Sent d entries d' entries')
    (hall : ∀ entry ∈ entries, entry.staged?.isSome) :
    ∀ entry ∈ entries', entry.staged?.isSome := by
  induction h with
  | nil d => exact hall
  | published hsent hbatch hbus hrest ih | failed hfailed hkept htaken hbus =>
    exact nomatch (List.forall_mem_cons.mp hall).1
  | other hentry hrest ih =>
    rw [List.forall_mem_cons] at hall ⊢
    exact ⟨hall.1, ih hall.2⟩

theorem Sent.isOrdered (h : Sent d entries d' entries') (hord : IsOrdered entries) :
    IsOrdered entries' := by
  induction h with
  | nil d => exact hord
  | published hsent hbatch hbus hrest ih =>
    exact ⟨(fun hs => nomatch hs), (fun hu => nomatch hu), ih hord.2.2⟩
  | failed hfailed hkept htaken hbus =>
    exact ⟨(fun hs => nomatch hs), fun _ => hord.2.1 rfl, hord.2.2⟩
  | @other d d' entry rest rest' hentry hrest ih =>
    refine ⟨fun hs other hother => ?_, fun hu => ?_, ih hord.2.2⟩
    · exact hrest.all_staged (hord.1 hs) other hother
    · rw [hentry] at hu
      cases hu

theorem Sent.isFaithful (h : Sent d entries d' entries')
    (hall : ∀ entry ∈ entries, entry.IsFaithful) : ∀ entry ∈ entries', entry.IsFaithful := by
  induction h with
  | nil d => exact hall
  | published hsent hbatch hbus hrest ih =>
    rw [List.forall_mem_cons] at hall ⊢
    exact ⟨⟨hall.1.1, hall.1.2, hbatch⟩, ih hall.2⟩
  | failed hfailed hkept htaken hbus =>
    rw [List.forall_mem_cons] at hall ⊢
    refine ⟨⟨hall.1.1, fun taken htaken' => ?_⟩, hall.2⟩
    rcases List.mem_append.mp htaken' with hmem | hmem
    · exact hall.1.2 taken hmem
    · rw [List.mem_singleton.mp hmem]
      exact htaken
  | other hentry hrest ih =>
    rw [List.forall_mem_cons] at hall ⊢
    exact ⟨hall.1, ih hall.2⟩

/-- The entries come to what comes of publishing the aggregates among them. -/
theorem Sent.dispatchAll (h : Sent d entries d' entries') :
    (d.forget.dispatchAll (entries.filterMap Entry.unpublished?)).dispatcher = d'.forget ∧
      (d.forget.dispatchAll (entries.filterMap Entry.unpublished?)).left =
        entries'.filterMap Entry.unpublished? := by
  induction h with
  | nil d => exact ⟨rfl, rfl⟩
  | @published d d' change a attempts batch rest rest' hsent hbatch hbus hrest ih =>
    have hfirst : (⟨change, .unpublished a attempts⟩ :: rest : List (Entry σ ε)).filterMap
        Entry.unpublished? = a :: rest.filterMap Entry.unpublished? := rfl
    rw [hfirst, Dispatcher.dispatchAll, Dispatcher.dispatch_forget, hsent]
    exact ih
  | @failed d change a attempts e taken rest hfailed hkept htaken hbus =>
    have hfirst : (⟨change, .unpublished a attempts⟩ :: rest : List (Entry σ ε)).filterMap
        Entry.unpublished? = a :: rest.filterMap Entry.unpublished? := rfl
    rw [hfirst, Dispatcher.dispatchAll, Dispatcher.dispatch_forget, hfailed, hkept]
    exact ⟨rfl, rfl⟩
  | other hentry hrest ih =>
    rw [List.filterMap_cons_none hentry, List.filterMap_cons_none hentry]
    exact ih

end Publishing

end Ledger

end Quarry
