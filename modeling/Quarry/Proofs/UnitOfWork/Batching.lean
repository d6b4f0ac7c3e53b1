import Mathlib.Data.List.Induction
import Quarry.Proofs.UnitOfWork.Ledger

/-!
# Commits in other places

A program that registers writes can commit after each of them, after all of them, or anywhere in
between. As long as nothing fails that makes no difference: if all commits of one way succeed, all
commits of another way do, both leave the same repository, and the bus receives the same envelopes
in the same order, but for the identifiers of the deliveries (`UnitOfWork.batching_makesNoDifference`).

After a run without failures the registered writes are those that are written and published, from
the first one on, and those that wait for the next commit (`UnitOfWork.IsSettled`). What the
repository and the bus hold is determined by the first ones alone. A commit moves the others to
them, and it succeeds just if the repository accepts them (`UnitOfWork.IsSettled.commit`,
`UnitOfWork.IsSettled.acceptsAll_of_commit`); that it accepts two lists of writes one after the other
is that it accepts both in one (`Change.acceptsAll_append_iff`).
-/

namespace Quarry

/-! ## Envelopes without identifiers -/

/-- The envelope `e` with nothing in place of the identifier of the delivery. -/
def Envelope.withoutId (e : Envelope) : Envelope :=
  { e with eventId := ⟨0, by decide⟩ }

/-- An event of an aggregate determines its envelope, but for the identifier. -/
theorem Envelope.Holds.withoutId_eq {σ ε : Type} [AggregateKind σ] [DomainEvent ε]
    {a : Aggregate σ ε} {e₁ e₂ : Envelope} {position : Nat} {event : ε}
    (h₁ : e₁.Holds a position event) (h₂ : e₂.Holds a position event) :
    e₁.withoutId = e₂.withoutId := by
  have hpayload := Except.ok.inj (h₁.payload.symm.trans h₂.payload)
  simp only [withoutId, Envelope.mk.injEq]
  exact ⟨trivial, h₁.aggregateId.trans h₂.aggregateId.symm,
    h₁.aggregateType.trans h₂.aggregateType.symm,
    h₁.aggregateVersion.trans h₂.aggregateVersion.symm, h₁.position.trans h₂.position.symm,
    h₁.eventType.trans h₂.eventType.symm, h₁.eventVersion.trans h₂.eventVersion.symm,
    h₁.occurredAt.trans h₂.occurredAt.symm, hpayload⟩

/-- A bus of the type `β` takes every message. -/
def AcceptsEverything (β : Type) [EventBus β Envelope] : Prop :=
  ∀ (bus : β) (envelope : Envelope), (EventBus.publish bus envelope).1 = .ok ()

namespace Aggregate

variable {σ ε : Type} [AggregateKind σ] [DomainEvent ε]

/-- The envelopes of the pending events of `a`, without identifiers; none if an event cannot be
written. -/
def letters (a : Aggregate σ ε) : List Envelope :=
  match a.envelopesOf ⟨0, 0⟩ 0 a.events.pending with
  | .ok (envelopes, _) => envelopes.map Envelope.withoutId
  | .error _ => []

/-- What is in the envelopes does not depend on where their identifiers come from. -/
theorem envelopesOf_withoutId {a : Aggregate σ ε} {ids₁ ids₂ ids₁' ids₂' : IdSource}
    {position : Nat} {events : List ε} {envelopes₁ envelopes₂ : List Envelope}
    (h₁ : a.envelopesOf ids₁ position events = .ok (envelopes₁, ids₁'))
    (h₂ : a.envelopesOf ids₂ position events = .ok (envelopes₂, ids₂')) :
    envelopes₁.map Envelope.withoutId = envelopes₂.map Envelope.withoutId := by
  obtain ⟨hlength₁, hholds₁⟩ := envelopesOf_ok h₁
  obtain ⟨hlength₂, hholds₂⟩ := envelopesOf_ok h₂
  refine List.ext_getElem ?_ fun i hi₁ hi₂ => ?_
  · rw [List.length_map, List.length_map, hlength₁, hlength₂]
  · rw [List.length_map] at hi₁ hi₂
    rw [List.getElem_map, List.getElem_map]
    obtain ⟨event₁, hevent₁, hfirst⟩ := hholds₁ i _ (List.getElem?_eq_getElem hi₁)
    obtain ⟨event₂, hevent₂, hsecond⟩ := hholds₂ i _ (List.getElem?_eq_getElem hi₂)
    rw [hevent₁] at hevent₂
    cases hevent₂
    exact hfirst.withoutId_eq hsecond

/-- Events that can be written are put into the `letters`, whatever the identifiers are. -/
theorem envelopesOf_letters {a : Aggregate σ ε} (h : a.HasWritableEvents) (ids : IdSource) :
    ∃ envelopes ids', a.envelopesOf ids 0 a.events.pending = .ok (envelopes, ids') ∧
      envelopes.map Envelope.withoutId = a.letters := by
  obtain ⟨envelopes, ids', henvelopes⟩ := a.exists_envelopesOf h ids 0
  obtain ⟨first, ids'', hfirst⟩ := a.exists_envelopesOf h ⟨0, 0⟩ 0
  refine ⟨envelopes, ids', henvelopes, ?_⟩
  rw [letters, hfirst]
  exact envelopesOf_withoutId henvelopes hfirst

end Aggregate

/-! ## Publishing where nothing is refused -/

section Publishing

variable {β σ ε : Type} [EventBus β Envelope] [AggregateKind σ] [DomainEvent ε]

theorem publishAll_of_acceptsEverything (hbus : AcceptsEverything β) (b : RecordingBus β)
    (envelopes : List Envelope) :
    (publishAll b envelopes).1 = .ok () ∧
      (publishAll b envelopes).2.accepted = b.accepted ++ envelopes := by
  induction envelopes generalizing b with
  | nil => exact ⟨rfl, (List.append_nil _).symm⟩
  | cons envelope rest ih =>
    have hpublish : EventBus.publish b envelope =
        (.ok (), ⟨(EventBus.publish b.bus envelope).2, b.accepted ++ [envelope]⟩) := by
      have haccepted := hbus b.bus envelope
      show b.publish envelope = _
      rw [RecordingBus.publish]
      generalize EventBus.publish b.bus envelope = answer at haccepted ⊢
      obtain ⟨outcome, bus⟩ := answer
      cases haccepted
      rfl
    rw [publishAll, hpublish]
    obtain ⟨hok, haccepted⟩ := ih ⟨(EventBus.publish b.bus envelope).2, b.accepted ++ [envelope]⟩
    refine ⟨hok, haccepted.trans ?_⟩
    rw [List.append_assoc]
    rfl

namespace Dispatcher

/-- On a bus that takes every message, the `letters` of an aggregate are published. -/
theorem dispatch_of_acceptsEverything (hbus : AcceptsEverything β)
    (d : Dispatcher (RecordingBus β)) {a : Aggregate σ ε} (ha : a.HasWritableEvents) :
    ∃ envelopes d', d.dispatch a = ⟨.ok envelopes, a.clearEvents, d'⟩ ∧
      d'.bus.accepted.map Envelope.withoutId =
        d.bus.accepted.map Envelope.withoutId ++ a.letters := by
  obtain ⟨envelopes, ids, henvelopes, hletters⟩ := Aggregate.envelopesOf_letters ha d.ids
  obtain ⟨hok, haccepted⟩ := publishAll_of_acceptsEverything hbus d.bus envelopes
  refine ⟨envelopes, ⟨(publishAll d.bus envelopes).2, ids⟩, ?_, ?_⟩
  · simp only [dispatch, henvelopes]
    generalize publishAll d.bus envelopes = answer at hok ⊢
    obtain ⟨outcome, bus⟩ := answer
    cases hok
    rfl
  · show (publishAll d.bus envelopes).2.accepted.map _ = _
    rw [haccepted, List.map_append, hletters]

/-- All events of all `aggregates` are published, aggregate by aggregate. -/
theorem dispatchAll_of_acceptsEverything (hbus : AcceptsEverything β)
    (d : Dispatcher (RecordingBus β)) {aggregates : List (Aggregate σ ε)}
    (h : ∀ a ∈ aggregates, a.HasWritableEvents) :
    (d.dispatchAll aggregates).failure = none ∧ (d.dispatchAll aggregates).left = [] ∧
      (d.dispatchAll aggregates).dispatcher.bus.accepted.map Envelope.withoutId =
        d.bus.accepted.map Envelope.withoutId ++ aggregates.flatMap Aggregate.letters := by
  induction aggregates generalizing d with
  | nil => exact ⟨rfl, rfl, (List.append_nil _).symm⟩
  | cons a rest ih =>
    obtain ⟨ha, hrest⟩ := List.forall_mem_cons.mp h
    obtain ⟨envelopes, d', hdispatch, hletters⟩ := dispatch_of_acceptsEverything hbus d ha
    obtain ⟨hfailure, hleft, haccepted⟩ := ih d' hrest
    rw [dispatchAll, hdispatch]
    refine ⟨hfailure, hleft, haccepted.trans ?_⟩
    rw [hletters, List.flatMap_cons, List.append_assoc]

end Dispatcher

theorem UnitOfWork.publishWritten_of_acceptsEverything (hbus : AcceptsEverything β)
    {ρ : Type} (w : UnitOfWork ρ (RecordingBus β) σ ε) (hevents : ∀ a ∈ w.written, a.HasWritableEvents) :
    ∃ envelopes, w.publishWritten.1 = .ok envelopes ∧ w.publishWritten.2.written = [] ∧
      w.publishWritten.2.dispatcher.bus.accepted.map Envelope.withoutId =
        w.dispatcher.bus.accepted.map Envelope.withoutId ++
          w.written.flatMap Aggregate.letters := by
  obtain ⟨hfailure, hleft, hletters⟩ := w.dispatcher.dispatchAll_of_acceptsEverything hbus hevents
  simp only [publishWritten, hfailure]
  exact ⟨_, rfl, hleft, hletters⟩

end Publishing

/-! ## Writes in one list or in two -/

namespace Change

variable {ρ σ ε : Type} [Repository ρ σ ε] {r r' r₁ r₂ : ρ}

/-- Writes that are accepted one after the other can be cut in two anywhere. -/
theorem acceptsAll_append_iff {first second : List (Change σ ε)}
    {written : List (Aggregate σ ε)} :
    AcceptsAll r (first ++ second) written r' ↔
      ∃ r₁ written₁ written₂, written = written₁ ++ written₂ ∧ AcceptsAll r first written₁ r₁ ∧
        AcceptsAll r₁ second written₂ r' := by
  induction first generalizing r written with
  | nil =>
    constructor
    · intro h
      exact ⟨r, [], written, rfl, .nil r, h⟩
    · rintro ⟨r₁, written₁, written₂, rfl, hfirst, hsecond⟩
      cases hfirst
      exact hsecond
  | cons change rest ih =>
    constructor
    · intro h
      cases h with
      | cons happly hrest =>
        obtain ⟨r₁, written₁, written₂, rfl, hfirst, hsecond⟩ := ih.mp hrest
        exact ⟨r₁, _ :: written₁, written₂, rfl, .cons happly hfirst, hsecond⟩
    · rintro ⟨r₁, written₁, written₂, rfl, hfirst, hsecond⟩
      cases hfirst with
      | cons happly hrest => exact .cons happly (ih.mpr ⟨r₁, _, written₂, rfl, hrest, hsecond⟩)

theorem AcceptsAll.repository_eq {changes : List (Change σ ε)}
    {written₁ written₂ : List (Aggregate σ ε)} (h₁ : AcceptsAll r changes written₁ r₁)
    (h₂ : AcceptsAll r changes written₂ r₂) : r₁ = r₂ := by
  induction h₁ generalizing written₂ with
  | nil r =>
    cases h₂
    rfl
  | cons happly hrest ih =>
    cases h₂ with
    | cons happly' hrest' =>
      cases happly.symm.trans happly'
      exact ih hrest'

end Change

/-! ## Runs without failures -/

namespace UnitOfWork

variable {ρ β σ ε : Type}

/-- The `steps` register `changes` in this order, commit now and then, and commit at last. -/
structure IsBatching (changes : List (Change σ ε)) (steps : List (Step σ ε)) : Prop where
  registers : steps.filterMap Step.registered = changes
  keeps : .rollback ∉ steps
  ends : ∃ before, steps = before ++ [.commit]

/-- The unit of work in which nothing happened, over a bus that keeps what it accepts. -/
def overRecord (r : ρ) (bus : β) (ids : IdSource) : UnitOfWork ρ (RecordingBus β) σ ε :=
  .new r ⟨⟨bus, []⟩, ids⟩

variable [Repository ρ σ ε] [AggregateKind σ] [DomainEvent ε]

/-- Where the unit of work `u` stands after a run without failures: the writes in `done` are applied
to the repository `r` and published, and those in `waiting` are staged. -/
structure IsSettled (r : ρ) (done waiting : List (Change σ ε))
    (u : UnitOfWork ρ (RecordingBus β) σ ε) : Prop where
  repository : Change.AcceptsAll r done (done.map Change.stamped) u.repository
  staged : u.staged = waiting
  written : u.written = []
  /-- The bus accepted the events of the first writes, write by write. -/
  accepted : u.dispatcher.bus.accepted.map Envelope.withoutId =
    done.flatMap fun change => change.stamped.letters

variable {r : ρ} {done waiting : List (Change σ ε)} {u : UnitOfWork ρ (RecordingBus β) σ ε}

theorem isSettled_overRecord (r : ρ) (bus : β) (ids : IdSource) :
    IsSettled r [] [] (overRecord r bus ids : UnitOfWork ρ (RecordingBus β) σ ε) :=
  ⟨.nil r, rfl, rfl, rfl⟩

theorem IsSettled.register (h : IsSettled r done waiting u) (change : Change σ ε) :
    IsSettled r done (waiting ++ [change]) (u.register change) :=
  ⟨h.repository, congrArg (· ++ [change]) h.staged, h.written, h.accepted⟩

variable [EventBus β Envelope]

/-- All commits of the run of `steps` from `u` succeed. -/
def CommitsSucceed (u : UnitOfWork ρ β σ ε) (steps : List (Step σ ε)) : Prop :=
  ∀ before after, steps = before ++ .commit :: after →
    ∃ envelopes, (u.run before).commit.1 = .ok envelopes

theorem commitsSucceed_concat {u : UnitOfWork ρ β σ ε} {steps : List (Step σ ε)}
    {step : Step σ ε} : u.CommitsSucceed (steps ++ [step]) ↔
      u.CommitsSucceed steps ∧
        (step = .commit → ∃ envelopes, (u.run steps).commit.1 = .ok envelopes) := by
  constructor
  · intro h
    refine ⟨fun before after heq => h before (after ++ [step]) ?_, ?_⟩
    · rw [heq, List.append_assoc, List.cons_append]
    · rintro rfl
      exact h steps [] rfl
  · rintro ⟨h, hlast⟩ before after heq
    rcases List.eq_nil_or_concat after with rfl | ⟨after, last, rfl⟩
    · obtain ⟨rfl, hstep⟩ := List.append_inj' heq rfl
      exact hlast (List.singleton_inj.mp hstep)
    · rw [List.concat_eq_append, ← List.cons_append, ← List.append_assoc] at heq
      exact h before after (List.append_inj' heq rfl).1

/-- A commit succeeds only if the repository accepts all the writes that wait. -/
theorem IsSettled.acceptsAll_of_commit [Change.Stamping ρ] (h : IsSettled r done waiting u)
    {envelopes : List Envelope} (hcommit : u.commit.1 = .ok envelopes) :
    ∃ written r', Change.AcceptsAll u.repository waiting written r' := by
  obtain ⟨k, r', hrun⟩ := u.exists_commitsRun
  rcases Nat.lt_or_ge k u.staged.length with hk | hk
  · obtain ⟨e, r'', -, hrefused⟩ := hrun.refused _ (List.getElem?_eq_getElem hk)
    rw [hrefused] at hcommit
    cases hcommit
  · have haccepted := hrun.accepted
    rw [List.take_of_length_le hk, h.staged] at haccepted
    exact ⟨_, r', haccepted⟩

/-- If the repository accepts all the writes that wait, a commit succeeds and no write waits any
more. -/
theorem IsSettled.commit [Change.Stamping ρ] (h : IsSettled r done waiting u)
    (hbus : AcceptsEverything β)
    (hevents : ∀ change ∈ waiting, change.stamped.HasWritableEvents) {r' : ρ}
    {written : List (Aggregate σ ε)}
    (haccepts : Change.AcceptsAll u.repository waiting written r') :
    (∃ envelopes, u.commit.1 = .ok envelopes) ∧ IsSettled r (done ++ waiting) [] u.commit.2 := by
  obtain ⟨k, r'', hrun⟩ := u.exists_commitsRun
  have hk : k = u.staged.length := by
    have hall : Change.AcceptsAll u.repository (u.staged.take u.staged.length) written r' := by
      rw [List.take_length, h.staged]
      exact haccepts
    exact Nat.le_antisymm hrun.longest.1.1 (hrun.longest.2 ⟨Nat.le_refl _, written, r', hall⟩)
  have haccepted := hrun.accepted
  rw [hk, List.take_length, h.staged] at haccepted
  obtain ⟨hstaged, hrepository, hcommit⟩ := hrun.completed hk
  rw [h.staged, h.written, List.nil_append] at hcommit
  obtain ⟨envelopes, hok, hwritten, hletters⟩ := publishWritten_of_acceptsEverything hbus
    (⟨r'', u.dispatcher, [], waiting.map Change.stamped⟩ : UnitOfWork ρ (RecordingBus β) σ ε)
    (List.forall_mem_map.mpr hevents)
  have hsettled : IsSettled r (done ++ waiting) [] u.commit.2 := {
    repository := by
      rw [hrepository, List.map_append]
      exact Change.acceptsAll_append_iff.mpr ⟨_, _, _, rfl, h.repository, haccepted⟩
    staged := hstaged
    written := by
      rw [hcommit]
      exact hwritten
    accepted := by
      rw [hcommit, List.flatMap_append, ← h.accepted]
      refine hletters.trans ?_
      rw [List.flatMap_map] }
  refine ⟨⟨envelopes, ?_⟩, hsettled⟩
  rw [hcommit, hok]
  rfl

/-- After a run whose commits all succeed the writes are settled: those registered before the last
commit are done, and the others wait. -/
theorem exists_isSettled_run [Change.Stamping ρ] (hbus : AcceptsEverything β) (r : ρ) (bus : β)
    (ids : IdSource) {steps : List (Step σ ε)} (hkeeps : .rollback ∉ steps)
    (hevents : ∀ change ∈ steps.filterMap Step.registered, change.stamped.HasWritableEvents)
    (hcommits : (overRecord r bus ids).CommitsSucceed steps) :
    ∃ done waiting, steps.filterMap Step.registered = done ++ waiting ∧
      IsSettled r done waiting ((overRecord r bus ids).run steps) := by
  induction steps using List.reverseRecOn with
  | nil => exact ⟨[], [], rfl, isSettled_overRecord r bus ids⟩
  | append_singleton steps step ih =>
    rw [List.mem_append, not_or] at hkeeps
    rw [List.filterMap_append, List.forall_mem_append] at hevents
    obtain ⟨hbefore, hlast⟩ := commitsSucceed_concat.mp hcommits
    obtain ⟨done, waiting, hregistered, hsettled⟩ := ih hkeeps.1 hevents.1 hbefore
    rw [run_concat, List.filterMap_append, hregistered]
    cases step with
    | register change =>
      exact ⟨done, waiting ++ [change], List.append_assoc _ _ _, hsettled.register change⟩
    | commit =>
      obtain ⟨envelopes, hcommit⟩ := hlast rfl
      obtain ⟨written, r', haccepts⟩ := hsettled.acceptsAll_of_commit hcommit
      have hwaiting : ∀ change ∈ waiting, change.stamped.HasWritableEvents := fun change hchange =>
        hevents.1 change (hregistered ▸ List.mem_append_right _ hchange)
      exact ⟨done ++ waiting, [], rfl, (hsettled.commit hbus hwaiting haccepts).2⟩
    | rollback => exact absurd (List.mem_singleton.mpr rfl) hkeeps.2

/-- If the repository accepts the registered writes in one, all commits among them succeed. -/
theorem commitsSucceed_of_acceptsAll [Change.Stamping ρ] (hbus : AcceptsEverything β) (bus : β)
    (ids : IdSource) {steps : List (Step σ ε)} (hkeeps : .rollback ∉ steps)
    (hevents : ∀ change ∈ steps.filterMap Step.registered, change.stamped.HasWritableEvents)
    {r r' : ρ} {written : List (Aggregate σ ε)}
    (haccepts : Change.AcceptsAll r (steps.filterMap Step.registered) written r') :
    (overRecord r bus ids).CommitsSucceed steps := by
  induction steps using List.reverseRecOn generalizing written r' with
  | nil =>
    intro before after heq
    cases before <;> cases heq
  | append_singleton steps step ih =>
    rw [List.mem_append, not_or] at hkeeps
    rw [List.filterMap_append, List.forall_mem_append] at hevents
    rw [List.filterMap_append] at haccepts
    obtain ⟨r₁, written₁, written₂, -, hfirst, -⟩ := Change.acceptsAll_append_iff.mp haccepts
    have hbefore := ih hkeeps.1 hevents.1 hfirst
    refine commitsSucceed_concat.mpr ⟨hbefore, fun _ => ?_⟩
    obtain ⟨done, waiting, hregistered, hsettled⟩ :=
      exists_isSettled_run hbus r bus ids hkeeps.1 hevents.1 hbefore
    have hwaiting : ∀ change ∈ waiting, change.stamped.HasWritableEvents := fun change hchange =>
      hevents.1 change (hregistered ▸ List.mem_append_right _ hchange)
    -- The writes before were accepted from the repository that the run started with too, so what
    -- they leave is the repository at which the unit of work stands.
    rw [hregistered] at hfirst
    obtain ⟨r₂, written', written'', -, hdone, hrest⟩ := Change.acceptsAll_append_iff.mp hfirst
    rw [hdone.repository_eq hsettled.repository] at hrest
    exact (hsettled.commit hbus hwaiting hrest).1

theorem IsBatching.isSettled_run [Change.Stamping ρ] (hbus : AcceptsEverything β) (r : ρ)
    (bus : β) (ids : IdSource) {changes : List (Change σ ε)} {steps : List (Step σ ε)}
    (hsteps : IsBatching changes steps)
    (hevents : ∀ change ∈ changes, change.stamped.HasWritableEvents)
    (hcommits : (overRecord r bus ids).CommitsSucceed steps) :
    IsSettled r changes [] ((overRecord r bus ids).run steps) := by
  obtain ⟨rfl, hkeeps, before, rfl⟩ := hsteps
  rw [List.mem_append, not_or] at hkeeps
  have hregistered : (before ++ [Step.commit]).filterMap Step.registered =
      before.filterMap Step.registered := by
    rw [List.filterMap_append]
    exact List.append_nil _
  rw [hregistered] at hevents ⊢
  obtain ⟨hbefore, hlast⟩ := commitsSucceed_concat.mp hcommits
  obtain ⟨done, waiting, hsplit, hsettled⟩ :=
    exists_isSettled_run hbus r bus ids hkeeps.1 hevents hbefore
  obtain ⟨envelopes, hcommit⟩ := hlast rfl
  obtain ⟨written, r', haccepts⟩ := hsettled.acceptsAll_of_commit hcommit
  have hwaiting : ∀ change ∈ waiting, change.stamped.HasWritableEvents := fun change hchange =>
    hevents change (hsplit ▸ List.mem_append_right _ hchange)
  rw [run_concat, hsplit]
  exact (hsettled.commit hbus hwaiting haccepts).2

variable {β' : Type} [EventBus β' Envelope]

/-- Where commits are made makes no difference as long as nothing fails. Two programs start from the
repository `r`, register the same `changes` in the same order, commit now and then, and commit at
last. If all commits in `steps` succeed, all commits in `steps'` do. Then both leave the same
repository and nothing to write or to publish, and their buses accepted the same envelopes in the
same order, but for the identifiers of the deliveries. -/
theorem batching_makesNoDifference [Change.Stamping ρ] {r : ρ} {bus : β} {bus' : β'}
    {ids ids' : IdSource} {changes : List (Change σ ε)} {steps steps' : List (Step σ ε)}
    (hbus : AcceptsEverything β) (hbus' : AcceptsEverything β')
    (hevents : ∀ change ∈ changes, change.stamped.HasWritableEvents)
    (hsteps : IsBatching changes steps) (hsteps' : IsBatching changes steps')
    (hcommits : (overRecord r bus ids).CommitsSucceed steps) :
    (overRecord r bus' ids').CommitsSucceed steps' ∧
      ((overRecord r bus' ids').run steps').repository =
        ((overRecord r bus ids).run steps).repository ∧
      ((overRecord r bus' ids').run steps').dispatcher.bus.accepted.map Envelope.withoutId =
        ((overRecord r bus ids).run steps).dispatcher.bus.accepted.map Envelope.withoutId ∧
      ((overRecord r bus' ids').run steps').hasChanges = false ∧
      ((overRecord r bus ids).run steps).hasChanges = false := by
  have hsettled := hsteps.isSettled_run hbus r bus ids hevents hcommits
  have haccepts := hsettled.repository
  rw [← hsteps'.registers] at haccepts hevents
  have hcommits' := commitsSucceed_of_acceptsAll hbus' bus' ids' hsteps'.keeps hevents haccepts
  rw [hsteps'.registers] at hevents
  have hsettled' := hsteps'.isSettled_run hbus' r bus' ids' hevents hcommits'
  refine ⟨hcommits', hsettled'.repository.repository_eq hsettled.repository,
    hsettled'.accepted.trans hsettled.accepted.symm, ?_, ?_⟩
  · rw [hasChanges, hsettled'.staged, hsettled'.written]
    rfl
  · rw [hasChanges, hsettled.staged, hsettled.written]
    rfl

/-- A customer registers, moves and is removed, with one commit at the end or one after each write. -/
theorem batching_makesNoDifference_customer :
    let now : Timestamp := .midnight 0
    let id : EntityId := ⟨⟨7, by decide⟩⟩
    let add : Change CustomerProfile CustomerEvent :=
      .add ⟨id, 0, .blank, ⟨[.registered "" now, .noted "" now]⟩⟩
    let update : Change CustomerProfile CustomerEvent :=
      .update ⟨id, 1, .blank, ⟨[.relocated none now]⟩⟩
    let remove : Change CustomerProfile CustomerEvent := .remove ⟨id, 2, .blank, .empty⟩
    let changes := [add, update, remove]
    let atOnce := [.register add, .register update, .register remove, .commit]
    let oneByOne := [.register add, .commit, .register update, .commit, .register remove, .commit]
    let r : MemoryRepository CustomerProfile CustomerEvent := .empty
    let bus : BroadcastBus Envelope := .empty
    ((∀ change ∈ changes, change.stamped.HasWritableEvents) ∧
        AcceptsEverything (BroadcastBus Envelope) ∧ IsBatching changes atOnce ∧
        IsBatching changes oneByOne ∧ (overRecord r bus ⟨0, 0⟩).CommitsSucceed atOnce) ∧
      (overRecord r bus ⟨1, 0⟩).CommitsSucceed oneByOne ∧
      ((overRecord r bus ⟨1, 0⟩).run oneByOne).repository =
        ((overRecord r bus ⟨0, 0⟩).run atOnce).repository ∧
      ((overRecord r bus ⟨1, 0⟩).run oneByOne).dispatcher.bus.accepted.map Envelope.withoutId =
        ((overRecord r bus ⟨0, 0⟩).run atOnce).dispatcher.bus.accepted.map Envelope.withoutId := by
  intro now id add update remove changes atOnce oneByOne r bus
  have hbus : AcceptsEverything (BroadcastBus Envelope) := fun _ _ => rfl
  have hadd : add.stamped.HasWritableEvents :=
    List.forall_mem_cons.mpr ⟨⟨_, rfl⟩, List.forall_mem_singleton.mpr ⟨_, rfl⟩⟩
  have hupdate : update.stamped.HasWritableEvents := List.forall_mem_singleton.mpr ⟨_, rfl⟩
  have hremove : remove.stamped.HasWritableEvents := nofun
  have hevents : ∀ change ∈ changes, change.stamped.HasWritableEvents :=
    List.forall_mem_cons.mpr
      ⟨hadd, List.forall_mem_cons.mpr ⟨hupdate, List.forall_mem_singleton.mpr hremove⟩⟩
  have hatOnce : IsBatching changes atOnce :=
    ⟨rfl, by simp [atOnce], [.register add, .register update, .register remove], rfl⟩
  have honeByOne : IsBatching changes oneByOne :=
    ⟨rfl, by simp [oneByOne], [.register add, .commit, .register update, .commit, .register remove],
      rfl⟩
  have haccepts : ∃ written r', Change.AcceptsAll r changes written r' :=
    ⟨_, _, .cons rfl (.cons rfl (.cons rfl (.nil _)))⟩
  obtain ⟨written, r', haccepts⟩ := haccepts
  have hcommits := commitsSucceed_of_acceptsAll hbus bus ⟨0, 0⟩ hatOnce.keeps hevents haccepts
  have hsame : (overRecord r bus ⟨1, 0⟩).CommitsSucceed oneByOne ∧ _ :=
    batching_makesNoDifference hbus hbus hevents hatOnce honeByOne hcommits
  obtain ⟨hcommits', hrepository, haccepted, -⟩ := hsame
  exact ⟨⟨hevents, hbus, hatOnce, honeByOne, hcommits⟩, hcommits', hrepository, haccepted⟩

end UnitOfWork

end Quarry
