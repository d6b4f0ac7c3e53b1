import Quarry.Proofs.Repository.InPlace
import Quarry.Proofs.UnitOfWork.Ledger
import Quarry.UnitOfWork.InPlace

/-!
# Commits after a refused write

A commit that stopped at a refused write has put this write back at the head of the staged ones, and
the next commit tries it before any other. In both kinds of repositories it is refused again and for
the same reason (`Change.Repeating`): the refusal has left the aggregate with the version that it
had (`Change.applyInPlace_eq`), and in the repository there is nothing new but, possibly, an empty
collection, which makes no difference to a write (`Change.apply_touched`).

So a unit of work in which a write was refused is stuck (`UnitOfWork.IsStuck`). However often it is
committed, nothing is written and nothing is published. What gets it going again is a rollback, or
somebody else who writes to the repository.
-/

namespace Quarry

variable {ρ β σ ε : Type}

/-! ## Writes in place -/

namespace Change

theorem withAggregate_self (change : Change σ ε) :
    change.withAggregate change.aggregate = change := by
  cases change with
  | add a => rfl
  | update a => rfl
  | remove a => rfl

theorem aggregate_withAggregate (change : Change σ ε) (a : Aggregate σ ε) :
    (change.withAggregate a).aggregate = a := by
  cases change with
  | add b => rfl
  | update b => rfl
  | remove b => rfl

theorem answer_call [Repository ρ σ ε] (change : Change σ ε) (r : ρ) :
    change.call.answer r change.aggregate = change.apply r := by
  cases change with
  | add a => rfl
  | update a => rfl
  | remove a => rfl

section InPlace

variable [Repository ρ σ ε] [InPlaceRepository ρ σ ε] [LawfulInPlace ρ]

/-- The aggregate of an accepted write is what the repository gave back, and that of a refused write
is as it was before. -/
theorem applyInPlace_eq (r : ρ) (change : Change σ ε) :
    change.applyInPlace r =
      match change.apply r with
      | (.ok a, r') => (.ok (), change.withAggregate a, r')
      | (.error e, r') => (.error e, change, r') := by
  rw [applyInPlace, LawfulInPlace.runOn_eq_settle, answer_call]
  rcases change.apply r with ⟨e | a, r'⟩
  · show (Except.error e, change.withAggregate change.aggregate, r') = _
    rw [withAggregate_self]
  · rfl

/-- Writes that are applied to the aggregates where they are come to what `applyAll` says. -/
theorem applyAllInPlace_eq (r : ρ) (changes : List (Change σ ε)) :
    applyAllInPlace r changes = applyAll r changes := by
  induction changes generalizing r with
  | nil => rfl
  | cons change rest ih =>
    rw [applyAllInPlace, applyAll, applyInPlace_eq]
    rcases change.apply r with ⟨e | a, r'⟩
    · rfl
    · dsimp only
      rw [ih, aggregate_withAggregate]

end InPlace

end Change

namespace UnitOfWork

variable [Repository ρ σ ε] [InPlaceRepository ρ σ ε] [LawfulInPlace ρ] [EventBus β Envelope]
  [AggregateKind σ] [DomainEvent ε]

/-- A commit that works on the aggregates where they are is one that gets them back. -/
theorem commitInPlace_eq (u : UnitOfWork ρ β σ ε) : u.commitInPlace = u.commit := by
  have hstaged : u.applyStagedInPlace = u.applyStaged := by
    simp only [applyStagedInPlace, applyStaged, Change.applyAllInPlace_eq]
  rw [commitInPlace, hstaged]
  rfl

end UnitOfWork

/-! ## Refused writes -/

/-- Trying a refused write again is refused for the same reason and changes nothing. -/
class Change.Repeating (ρ : Type) {σ ε : outParam Type} [Repository ρ σ ε] : Prop where
  refused_again {r r' : ρ} {change : Change σ ε} {e : RepositoryError}
    (h : change.apply r = (.error e, r')) : change.apply r' = (.error e, r')

namespace Change

variable [AggregateKind σ] [Record (Aggregate σ ε)]

instance : Repeating (MemoryRepository σ ε) where
  refused_again {r r' change e} h := by
    rcases apply_memory_cases r change with ⟨r'', heq⟩ | ⟨e', heq⟩
    · cases h.symm.trans heq
    · cases h.symm.trans heq
      exact h

end Change

namespace DocumentStore

theorem write_touch (s : DocumentStore) (name : String)
    (change : DocumentCollection → Except RepositoryError DocumentCollection) :
    (s.touch name).write name change = s.write name change := by
  have hagain (c : DocumentCollection) :
      (s.touch name).withCollection name c = s.withCollection name c :=
    congrArg mk (SortedMap.insert_insert_self _ _ _ _)
  cases hchange : change (s.collection name) with
  | error e =>
    rw [write_of_error hchange, write_of_error ((collection_touch s name name).symm ▸ hchange),
      touch, collection_touch, hagain]
    rfl
  | ok c =>
    rw [write_of_ok hchange, write_of_ok ((collection_touch s name name).symm ▸ hchange), hagain]

end DocumentStore

namespace Change

variable [AggregateKind σ] [JsonCodec (Aggregate σ ε)] [Record (Aggregate σ ε)]

/-- An empty collection makes no difference to a write that gets as far as the collection. -/
theorem apply_touched (r : DocumentRepository σ ε) {change : Change σ ε} (h : change.IsStorable) :
    change.apply r.touched = change.apply r := by
  have hput {a : Aggregate σ ε} {d : StoredDocument} (hd : DocumentRepository.documentOf a = .ok d)
      (check : DocumentCollection → Except RepositoryError Unit) :
      r.touched.put a check = r.put a check := by
    unfold DocumentRepository.put DocumentRepository.touched
    rw [hd]
    dsimp only
    rw [DocumentStore.write_touch]
  cases change with
  | add a =>
    obtain ⟨d, hd⟩ := h
    show r.touched.put (a.atVersion 1) (fun c => c.checkAbsent σ a.id) = _
    exact hput hd _
  | update a =>
    obtain ⟨d, hd⟩ := h
    show r.touched.put (a.atVersion (a.version + 1))
      (fun c => c.checkStored σ a.id (.exact a.version)) = _
    exact hput hd _
  | remove a =>
    have hremove : r.touched.remove a.id (.exact a.version) = r.remove a.id (.exact a.version) := by
      unfold DocumentRepository.remove DocumentRepository.touched
      rw [DocumentStore.write_touch]
    show ((r.touched.remove a.id (.exact a.version)).1.map fun () => a,
      (r.touched.remove a.id (.exact a.version)).2) = _
    rw [hremove]
    rfl

instance : Repeating (DocumentRepository σ ε) where
  refused_again {r r' change e} h := by
    rcases apply_document_cases r change with ⟨r'', heq⟩ | ⟨e', heq, -⟩ | ⟨e', heq, hstorable⟩
    · cases h.symm.trans heq
    · cases h.symm.trans heq
      exact h
    · cases h.symm.trans heq
      rw [apply_touched r hstorable]
      exact h

end Change

/-! ## Stuck units of work -/

namespace UnitOfWork

theorem mapError_unpublished_ne (outcome : Except PublishError (List Envelope))
    (e : RepositoryError) : outcome.mapError CommitError.unpublished ≠ .error (.refused e) := by
  cases outcome with
  | error cause => exact fun h => nomatch h
  | ok envelopes => exact fun h => nomatch h

section Stuck

variable [Repository ρ σ ε]

/-- The first staged write of `u` is refused because of `e`, and to try it changes nothing. -/
def IsStuck (u : UnitOfWork ρ β σ ε) (e : RepositoryError) : Prop :=
  ∃ change rest, u.staged = change :: rest ∧ change.apply u.repository = (.error e, u.repository)

variable {u u' : UnitOfWork ρ β σ ε} {e : RepositoryError}

theorem IsStuck.register (h : u.IsStuck e) (change : Change σ ε) :
    (u.register change).IsStuck e := by
  obtain ⟨first, rest, hstaged, happly⟩ := h
  exact ⟨first, rest ++ [change], congrArg (· ++ [change]) hstaged, happly⟩

theorem IsStuck.withDispatcher (h : u.IsStuck e) (d : Dispatcher β) :
    { u with dispatcher := d }.IsStuck e :=
  h

variable [EventBus β Envelope] [AggregateKind σ] [DomainEvent ε]

theorem IsStuck.commit_eq (h : u.IsStuck e) : u.commit = (.error (.refused e), u) := by
  obtain ⟨change, rest, hstaged, happly⟩ := h
  have happlied : Change.applyAll u.repository u.staged =
      ⟨u.repository, [], u.staged, some e⟩ := by
    rw [hstaged, Change.applyAll, happly]
  unfold commit applyStaged
  rw [happlied]
  simp only [List.append_nil]

theorem isStuck_of_commit [Change.Stamping ρ] [Change.Repeating ρ]
    (h : u.commit = (.error (.refused e), u')) : u'.IsStuck e := by
  obtain ⟨k, r, hrun⟩ := u.exists_commitsRun
  rcases Nat.lt_or_ge k u.staged.length with hk | hk
  · obtain ⟨e', r', happly, hcommit⟩ := hrun.refused _ (List.getElem?_eq_getElem hk)
    cases h.symm.trans hcommit
    exact ⟨_, _, List.drop_eq_getElem_cons hk, Change.Repeating.refused_again happly⟩
  · obtain ⟨-, -, hcommit⟩ := hrun.completed (Nat.le_antisymm hrun.longest.1.1 hk)
    have houtcome := congrArg Prod.fst (hcommit.symm.trans h)
    exact absurd houtcome (mapError_unpublished_ne _ e)

end Stuck

/-! ## Retries -/

section Runs

variable [InPlaceRepository ρ σ ε] [EventBus β Envelope] [AggregateKind σ] [DomainEvent ε]

/-- The unit of work after a step that writes the aggregates where they are. -/
def performInPlace (u : UnitOfWork ρ β σ ε) : Step σ ε → UnitOfWork ρ β σ ε
  | .register change => u.register change
  | .commit => u.commitInPlace.2
  | .rollback => u.rollback

/-- The unit of work after `steps` that write the aggregates where they are. -/
def runInPlace (u : UnitOfWork ρ β σ ε) (steps : List (Step σ ε)) : UnitOfWork ρ β σ ε :=
  steps.foldl performInPlace u

/-- Whatever becomes of the bus, and after any `steps` that discard nothing, all is as it is in `u`
but for the writes that were registered since. A commit then fails because of `e` and changes
nothing. -/
def RepeatsRefusal (u : UnitOfWork ρ β σ ε) (e : RepositoryError) : Prop :=
  ∀ (d : Dispatcher β) (steps : List (Step σ ε)), (∀ step ∈ steps, step ≠ .rollback) →
    let later := { u with dispatcher := d }.runInPlace steps
    later = { u with
      dispatcher := d
      staged := u.staged ++ steps.filterMap Step.registered } ∧
      later.commitInPlace = (.error (.refused e), later)

variable [Repository ρ σ ε] [LawfulInPlace ρ] {u u' : UnitOfWork ρ β σ ε} {e : RepositoryError}

/-- A `step` of a stuck unit of work stages a write or does nothing at all. -/
theorem IsStuck.performInPlace (h : u.IsStuck e) {step : Step σ ε} (hstep : step ≠ .rollback) :
    u.performInPlace step = { u with staged := u.staged ++ step.registered.toList } ∧
      (u.performInPlace step).IsStuck e := by
  cases step with
  | register change => exact ⟨rfl, h.register change⟩
  | commit =>
    have hcommit : u.performInPlace .commit = u := by
      rw [UnitOfWork.performInPlace, commitInPlace_eq, h.commit_eq]
    rw [hcommit]
    refine ⟨?_, h⟩
    rw [Step.registered, Option.toList_none, List.append_nil]
  | rollback => exact absurd rfl hstep

/-- The `steps` of a stuck unit of work stage writes or do nothing at all. -/
theorem IsStuck.runInPlace (h : u.IsStuck e) (steps : List (Step σ ε))
    (hsteps : ∀ step ∈ steps, step ≠ .rollback) :
    u.runInPlace steps = { u with staged := u.staged ++ steps.filterMap Step.registered } ∧
      (u.runInPlace steps).IsStuck e := by
  induction steps generalizing u with
  | nil =>
    rw [List.filterMap_nil, List.append_nil]
    exact ⟨rfl, h⟩
  | cons step rest ih =>
    rw [List.forall_mem_cons] at hsteps
    obtain ⟨hperform, hstuck⟩ := h.performInPlace hsteps.1
    obtain ⟨hrun, hstill⟩ := ih hstuck hsteps.2
    refine ⟨hrun.trans ?_, hstill⟩
    rw [hperform, List.append_assoc]
    cases hregistered : step.registered with
    | none => rw [List.filterMap_cons_none hregistered, Option.toList_none, List.nil_append]
    | some change =>
      rw [List.filterMap_cons_some hregistered, Option.toList_some, List.singleton_append]

theorem IsStuck.repeatsRefusal (h : u.IsStuck e) : u.RepeatsRefusal e := by
  intro d steps hsteps
  obtain ⟨hrun, hstuck⟩ := IsStuck.runInPlace (h.withDispatcher d) steps hsteps
  refine ⟨hrun, ?_⟩
  rw [commitInPlace_eq]
  exact hstuck.commit_eq

end Runs

section Retries

variable [EventBus β Envelope] [AggregateKind σ] [DomainEvent ε] [Record (Aggregate σ ε)]
  [JsonCodec (Aggregate σ ε)]

/-- A commit that failed at a write is no nearer to success when it is tried again. As long as
nobody else writes to the repository it fails with the same error `e`, and neither the repository
nor the staged writes with their aggregates nor the written aggregates nor the bus change any more.
-/
theorem refused_commit_repeats (e : RepositoryError) :
    (∀ u u' : UnitOfWork (MemoryRepository σ ε) β σ ε,
      u.commitInPlace = (.error (.refused e), u') → u'.RepeatsRefusal e) ∧
    ∀ u u' : UnitOfWork (DocumentRepository σ ε) β σ ε,
      u.commitInPlace = (.error (.refused e), u') → u'.RepeatsRefusal e := by
  constructor
  · intro u u' h
    rw [commitInPlace_eq] at h
    exact (isStuck_of_commit h).repeatsRefusal
  · intro u u' h
    rw [commitInPlace_eq] at h
    exact (isStuck_of_commit h).repeatsRefusal

end Retries

/-- The update of a customer that nobody ever stored keeps a new customer behind it from being
stored. The refusal has made the collection, and two further commits, with another write registered
in between, change nothing at all. -/
theorem refused_commit_repeats_unstored :
    let unknown : Aggregate CustomerProfile CustomerEvent :=
      ⟨⟨⟨1, by decide⟩⟩, 0, CustomerProfile.blank, ⟨[]⟩⟩
    let fresh : Aggregate CustomerProfile CustomerEvent :=
      ⟨⟨⟨2, by decide⟩⟩, 0, CustomerProfile.blank, ⟨[]⟩⟩
    let e := AggregateKind.notFound CustomerProfile unknown.id
    let u : UnitOfWork (DocumentRepository CustomerProfile CustomerEvent) (BroadcastBus Envelope)
        CustomerProfile CustomerEvent :=
      ((new .empty ⟨.empty, ⟨0, 0⟩⟩).register (.update unknown)).register (.add fresh)
    ∃ u', u.commitInPlace = (.error (.refused e), u') ∧ u'.staged = u.staged ∧
      u'.repository.store.collectionNames = ["customer"] ∧
      u'.runInPlace [.commit, .register (.remove fresh), .commit] =
        u'.register (.remove fresh) := by
  intro unknown fresh e u
  have hcommit : u.commitInPlace = (.error (.refused e), u.commitInPlace.2) := rfl
  have hstaged : u.commitInPlace.2.staged = u.staged := rfl
  have hnames : u.commitInPlace.2.repository.store.collectionNames = ["customer"] := rfl
  have hsteps : ∀ step ∈ [Step.commit, .register (.remove fresh), .commit],
      step ≠ .rollback := by simp
  generalize u.commitInPlace.2 = u' at hcommit hstaged hnames
  refine ⟨u', hcommit, hstaged, hnames, ?_⟩
  exact ((refused_commit_repeats e).2 u u' hcommit u'.dispatcher _ hsteps).1

end UnitOfWork

end Quarry
