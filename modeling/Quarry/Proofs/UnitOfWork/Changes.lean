import Mathlib.Data.List.Induction
import Quarry.Proofs.Event.Dispatch
import Quarry.Proofs.UnitOfWork.Ledger

/-!
# Whether there is something to commit

A unit of work says that it has changes as long as writes are staged or written aggregates wait to
be published. It counts the aggregates and not their events, so it says so, too, if the aggregates
that wait have no events (`UnitOfWork.IsSpent`). That is not what the count is for: nothing is left
to be written or published then.

An attempt to publish takes such aggregates away, up to the first one that has events
(`Dispatcher.dispatchAll_left`). They are left behind only by a commit that was refused at a write
before it came to that, and they are noticed when the refused write is discarded
(`UnitOfWork.tellsTruth_run_iff`).
-/

namespace Quarry

variable {ρ β σ ε : Type}

/-! ## What is left by a commit -/

theorem Change.applyAll_left_eq_nil_iff [Repository ρ σ ε] (r : ρ) (changes : List (Change σ ε)) :
    (applyAll r changes).left = [] ↔ (applyAll r changes).refusal = none := by
  induction changes generalizing r with
  | nil => exact ⟨fun _ => rfl, fun _ => rfl⟩
  | cons change rest ih =>
    rw [applyAll]
    rcases change.apply r with ⟨e | a, r'⟩
    · exact iff_of_false (List.cons_ne_nil _ _) (Option.some_ne_none e)
    · exact ih r'

section Publishing

variable [EventBus β Envelope] [AggregateKind σ] [DomainEvent ε]

theorem Dispatcher.hasPendingEvents_of_dispatch {d : Dispatcher β} {a : Aggregate σ ε}
    {e : PublishError} (h : (d.dispatch a).outcome = .error e) : a.hasPendingEvents = true := by
  rw [Aggregate.hasPendingEvents, Recorder.isEmpty]
  cases hpending : a.events.pending with
  | nil =>
    rw [dispatch, hpending] at h
    cases h
  | cons event rest => rfl

theorem Dispatcher.dispatchAll_left (d : Dispatcher β) (aggregates : List (Aggregate σ ε)) :
    ∀ a ∈ (d.dispatchAll aggregates).left.head?, a.hasPendingEvents = true := by
  induction aggregates generalizing d with
  | nil => exact fun a ha => nomatch ha
  | cons first rest ih =>
    rw [dispatchAll]
    rcases hdispatch : d.dispatch first with ⟨e | envelopes, a, d'⟩
    · have houtcome := congrArg Dispatch.outcome hdispatch
      have hsame := aggregate_of_dispatch_error houtcome
      rw [hdispatch] at hsame
      intro b hb
      cases hb
      exact (congrArg Aggregate.hasPendingEvents hsame).trans (hasPendingEvents_of_dispatch houtcome)
    · exact ih d'

end Publishing

namespace UnitOfWork

/-- Nothing but aggregates without events is waiting in `u` to be published, and there is one. -/
def IsSpent (u : UnitOfWork ρ β σ ε) : Prop :=
  u.written ≠ [] ∧ ∀ a ∈ u.written, a.hasPendingEvents = false

/-- The unit of work `u` says that it has changes just if there is something to write or to publish.
-/
def TellsTruth (u : UnitOfWork ρ β σ ε) : Prop :=
  u.hasChanges = true ↔ u.staged ≠ [] ∨ ∃ a ∈ u.written, a.hasPendingEvents = true

theorem hasChanges_iff (u : UnitOfWork ρ β σ ε) :
    u.hasChanges = true ↔ u.staged ≠ [] ∨ u.written ≠ [] := by
  rw [hasChanges, Bool.or_eq_true, Bool.not_eq_true', Bool.not_eq_true', ← Bool.not_eq_true,
    ← Bool.not_eq_true, List.isEmpty_iff, List.isEmpty_iff]

theorem isSpent_iff (u : UnitOfWork ρ β σ ε) :
    u.IsSpent ↔ u.written ≠ [] ∧ ¬ ∃ a ∈ u.written, a.hasPendingEvents = true := by
  simp only [IsSpent, not_exists, not_and, Bool.not_eq_true]

/-- What `hasChanges` says is wrong just where nothing is staged and only aggregates without events
wait. -/
theorem tellsTruth_iff (u : UnitOfWork ρ β σ ε) : u.TellsTruth ↔ ¬ (u.staged = [] ∧ u.IsSpent) := by
  rw [TellsTruth, hasChanges_iff, isSpent_iff]
  constructor
  · rintro htruth ⟨hstaged, hwritten, hnone⟩
    rcases htruth.mp (Or.inr hwritten) with h | h
    · exact h hstaged
    · exact hnone h
  · intro hnot
    constructor
    · rintro (hstaged | hwritten)
      · exact Or.inl hstaged
      · by_contra hno
        rw [not_or, not_not] at hno
        exact hnot ⟨hno.1, hwritten, hno.2⟩
    · rintro (hstaged | ⟨a, ha, -⟩)
      · exact Or.inl hstaged
      · exact Or.inr (List.ne_nil_of_mem ha)

section Runs

variable [EventBus β Envelope] [AggregateKind σ] [DomainEvent ε]

theorem not_isSpent_publishWritten (u : UnitOfWork ρ β σ ε) : ¬ u.publishWritten.2.IsSpent := by
  rintro ⟨hwritten, hnone⟩
  have hleft : u.publishWritten.2.written = (u.dispatcher.dispatchAll u.written).left := by
    simp only [publishWritten]
    split
    · rfl
    · rfl
  rw [hleft] at hwritten hnone
  obtain ⟨a, rest, hcons⟩ := List.exists_cons_of_ne_nil hwritten
  have hpending := u.dispatcher.dispatchAll_left u.written a (by rw [hcons]; rfl)
  rw [hnone a (by rw [hcons]; exact List.mem_cons_self)] at hpending
  cases hpending

variable [Repository ρ σ ε]

/-- A commit that is refused at a write keeps it. Any other one has written everything, and the
aggregates that still wait have events. -/
theorem commit_cases (u : UnitOfWork ρ β σ ε) :
    ((∃ e, u.commit.1 = .error (.refused e)) ∧ u.commit.2.staged ≠ []) ∨
      (u.commit.2.staged = [] ∧ ¬ u.commit.2.IsSpent) := by
  have hleft := Change.applyAll_left_eq_nil_iff u.repository u.staged
  unfold commit applyStaged
  generalize Change.applyAll u.repository u.staged = application at hleft
  obtain ⟨r, written, left, refusal⟩ := application
  cases refusal with
  | some e => exact Or.inl ⟨⟨e, rfl⟩, fun h => nomatch hleft.mp h⟩
  | none =>
    obtain rfl : left = [] := hleft.mpr rfl
    exact Or.inr ⟨(publishWritten_frame _).2, not_isSpent_publishWritten _⟩

/-- In the run of `steps` from `u`, a commit was refused at a write when nothing but aggregates
without events had been written, and since then there was no other commit. -/
def StoppedSpent (u : UnitOfWork ρ β σ ε) (steps : List (Step σ ε)) : Prop :=
  ∃ before after, steps = before ++ .commit :: after ∧ .commit ∉ after ∧
    (∃ e, (u.run before).commit.1 = .error (.refused e)) ∧ (u.run before).commit.2.IsSpent

variable {u : UnitOfWork ρ β σ ε} {steps : List (Step σ ε)}

theorem stoppedSpent_concat_iff {step : Step σ ε} (h : step ≠ .commit) :
    u.StoppedSpent (steps ++ [step]) ↔ u.StoppedSpent steps := by
  constructor
  · rintro ⟨before, after, heq, hafter, hcommit⟩
    rcases List.eq_nil_or_concat' after with rfl | ⟨after, last, rfl⟩
    · exact absurd (List.singleton_inj.mp (List.append_inj' heq rfl).2) h
    · rw [← List.cons_append, ← List.append_assoc] at heq
      refine ⟨before, after, (List.append_inj' heq rfl).1, fun hmem => hafter ?_, hcommit⟩
      exact List.mem_append_left _ hmem
  · rintro ⟨before, after, heq, hafter, hcommit⟩
    refine ⟨before, after ++ [step], ?_, ?_, hcommit⟩
    · rw [heq, List.append_assoc, List.cons_append]
    · rw [List.mem_append, List.mem_singleton, not_or]
      exact ⟨hafter, h.symm⟩

theorem stoppedSpent_commit_iff :
    u.StoppedSpent (steps ++ [.commit]) ↔ (u.run steps).commit.2.IsSpent := by
  constructor
  · rintro ⟨before, after, heq, hafter, -, hspent⟩
    rcases List.eq_nil_or_concat' after with rfl | ⟨after, last, rfl⟩
    · rwa [(List.append_inj' heq rfl).1]
    · rw [← List.cons_append, ← List.append_assoc] at heq
      have hlast := List.singleton_inj.mp (List.append_inj' heq rfl).2
      exact absurd (List.mem_append_right _ (List.mem_singleton.mpr hlast)) hafter
  · intro hspent
    refine ⟨steps, [], rfl, List.not_mem_nil, ?_, hspent⟩
    rcases (u.run steps).commit_cases with ⟨hrefused, -⟩ | ⟨-, hnot⟩
    · exact hrefused
    · exact absurd hspent hnot

theorem isSpent_perform_iff (u : UnitOfWork ρ β σ ε) {step : Step σ ε} (h : step ≠ .commit) :
    (u.perform step).IsSpent ↔ u.IsSpent := by
  cases step with
  | register change => exact Iff.rfl
  | commit => exact absurd rfl h
  | rollback => exact Iff.rfl

/-- Only aggregates without events wait just if the last commit was stopped so. -/
theorem isSpent_run_iff (hu : ¬ u.IsSpent) (steps : List (Step σ ε)) :
    (u.run steps).IsSpent ↔ u.StoppedSpent steps := by
  induction steps using List.reverseRecOn with
  | nil =>
    refine ⟨fun h => absurd h hu, ?_⟩
    rintro ⟨before, after, heq, -⟩
    exact absurd heq.symm (List.append_ne_nil_of_right_ne_nil _ (List.cons_ne_nil _ _))
  | append_singleton steps step ih =>
    rw [run_concat]
    cases step with
    | commit => exact stoppedSpent_commit_iff.symm
    | register change =>
      have hstep : Step.register change ≠ .commit := fun h => nomatch h
      rw [isSpent_perform_iff _ hstep, stoppedSpent_concat_iff hstep, ih]
    | rollback =>
      have hstep : (Step.rollback : Step σ ε) ≠ .commit := fun h => nomatch h
      rw [isSpent_perform_iff _ hstep, stoppedSpent_concat_iff hstep, ih]

/-- Where only aggregates without events wait, nothing is staged just if the last step has discarded
it. -/
theorem staged_run_eq_nil_iff (hu : ¬ u.IsSpent) (hspent : (u.run steps).IsSpent) :
    (u.run steps).staged = [] ↔ steps.getLast? = some .rollback := by
  rcases List.eq_nil_or_concat' steps with rfl | ⟨steps, step, rfl⟩
  · exact absurd hspent hu
  rw [run_concat] at hspent ⊢
  rw [List.getLast?_concat, Option.some.injEq]
  cases step with
  | register change =>
    exact ⟨fun h => absurd h (List.append_ne_nil_of_right_ne_nil _ (List.cons_ne_nil _ _)),
      fun h => nomatch h⟩
  | commit =>
    rcases (u.run steps).commit_cases with ⟨-, hstaged⟩ | ⟨-, hnot⟩
    · exact ⟨fun h => absurd h hstaged, fun h => nomatch h⟩
    · exact absurd hspent hnot
  | rollback => exact ⟨fun _ => rfl, fun _ => rfl⟩

/-- After any run of `steps` from nothing, however the repository and the bus take it, a unit of
work says rightly whether there is something to write or to publish, but for one case: the last
commit was refused at a write when nothing but aggregates without events had been written, and the
last step has discarded what was staged. -/
theorem tellsTruth_run_iff (r : ρ) (d : Dispatcher β) (steps : List (Step σ ε)) :
    let u : UnitOfWork ρ β σ ε := new r d
    (u.run steps).TellsTruth ↔ ¬ (u.StoppedSpent steps ∧ steps.getLast? = some .rollback) := by
  intro u
  have hu : ¬ u.IsSpent := fun h => h.1 rfl
  rw [tellsTruth_iff, ← isSpent_run_iff hu, and_comm]
  exact not_congr (and_congr_right fun hspent => staged_run_eq_nil_iff hu hspent)

end Runs

/-- A customer is stored, the update of another one is refused, and the update is discarded. Neither
of them has events, so there is nothing to write or to publish, but the unit of work says so. -/
theorem exists_not_tellsTruth :
    let stored : Aggregate CustomerProfile CustomerEvent :=
      ⟨⟨⟨1, by decide⟩⟩, 0, CustomerProfile.blank, ⟨[]⟩⟩
    let unknown : Aggregate CustomerProfile CustomerEvent :=
      ⟨⟨⟨2, by decide⟩⟩, 0, CustomerProfile.blank, ⟨[]⟩⟩
    let u : UnitOfWork (MemoryRepository CustomerProfile CustomerEvent) (BroadcastBus Envelope)
        CustomerProfile CustomerEvent :=
      (new .empty ⟨.empty, ⟨0, 0⟩⟩).run
        [.register (.add stored), .register (.update unknown), .commit, .rollback]
    u.hasChanges = true ∧ u.staged = [] ∧ u.written = [stored.atVersion 1] ∧
      ¬ u.TellsTruth := by
  intro stored unknown u
  have hchanges : u.hasChanges = true := rfl
  have hstaged : u.staged = [] := rfl
  have hwritten : u.written = [stored.atVersion 1] := rfl
  refine ⟨hchanges, hstaged, hwritten, fun htruth => ?_⟩
  rcases htruth.mp hchanges with h | ⟨a, ha, hpending⟩
  · exact h hstaged
  · rw [hwritten] at ha
    rw [List.mem_singleton.mp ha] at hpending
    cases hpending

end UnitOfWork

end Quarry
