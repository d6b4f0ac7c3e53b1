import Quarry.Event.Dispatcher
import Quarry.Repository

/-!
# Units of work

A unit of work stages writes of aggregates and applies them together. A commit applies the staged
writes in their order and stops at the first one that the repository refuses; this one and those
after it stay staged, and what was written stays written. Only when all of them are applied are the
events of the written aggregates published, aggregate by aggregate. An aggregate leaves the unit of
work when its events are published, so after a failure the next commit goes on with it.
-/

namespace Quarry

/-- A staged write of an aggregate: its addition, its update, or its removal in the version that it
has. -/
inductive Change (σ ε : Type) where
  | add (a : Aggregate σ ε)
  | update (a : Aggregate σ ε)
  /-- Removes an aggregate from the version that the caller knows. -/
  | remove (a : Aggregate σ ε)

/-- Applies a write to `r`: the aggregate that was written, or the reason why the write is refused,
and the repository afterwards. -/
def Change.apply {ρ σ ε : Type} [Repository ρ σ ε] (r : ρ) :
    Change σ ε → Except RepositoryError (Aggregate σ ε) × ρ
  | .add a => Repository.add r a
  | .update a => Repository.update r a
  | .remove a =>
    let (outcome, r) := Repository.remove r a.id (.exact a.version)
    (outcome.map fun () => a, r)

/-- What came of applying writes one after the other (`Change.applyAll`). -/
structure Application (ρ σ ε : Type) where
  repository : ρ
  written : List (Aggregate σ ε)
  /-- The writes from the first refused one on. -/
  left : List (Change σ ε)
  /-- Why a write was refused, if one was. -/
  refusal : Option RepositoryError

/-- Applies writes one after the other by `Change.apply`, up to the first one that is refused. -/
def Change.applyAll {ρ σ ε : Type} [Repository ρ σ ε] :
    ρ → List (Change σ ε) → Application ρ σ ε
  | r, [] => ⟨r, [], [], none⟩
  | r, change :: rest =>
    match change.apply r with
    | (.ok a, r) =>
      let application := applyAll r rest
      { application with written := a :: application.written }
    | (.error e, r) => ⟨r, [], change :: rest, some e⟩

/-- What came of publishing the events of aggregates (`Dispatcher.dispatchAll`). -/
structure Publication (β σ ε : Type) where
  dispatcher : Dispatcher β
  /-- The envelopes of the aggregates all of whose events were published. -/
  published : List Envelope
  /-- The aggregates from the first one on whose events were not all published. -/
  left : List (Aggregate σ ε)
  /-- Why the events of an aggregate were not published, if they were not. -/
  failure : Option PublishError

/-- Publishes the events of aggregates one after the other (`Dispatcher.dispatch`), up to the first
failure. -/
def Dispatcher.dispatchAll {β σ ε : Type} [EventBus β Envelope] [AggregateKind σ] [DomainEvent ε] :
    Dispatcher β → List (Aggregate σ ε) → Publication β σ ε
  | d, [] => ⟨d, [], [], none⟩
  | d, a :: rest =>
    match d.dispatch a with
    | ⟨.ok envelopes, _, d⟩ =>
      let publication := dispatchAll d rest
      { publication with published := envelopes ++ publication.published }
    | ⟨.error e, a, d⟩ => ⟨d, [], a :: rest, some e⟩

/-- Why `UnitOfWork.commit` fails. -/
inductive CommitError where
  | refused (cause : RepositoryError)
  /-- Everything is written, but not all events are published. -/
  | unpublished (cause : PublishError)

instance : Reported CommitError where
  report
    | .refused cause => Reported.report cause
    | .unpublished cause => Reported.report cause

/-- Writes to a repository of type `ρ`, the events of which go to a bus of type `β`. -/
structure UnitOfWork (ρ β σ ε : Type) where
  repository : ρ
  dispatcher : Dispatcher β
  /-- The writes that are not applied, in the order of their registration. -/
  staged : List (Change σ ε)
  /-- The aggregates that are written and still have to be published, in order. -/
  written : List (Aggregate σ ε)

namespace UnitOfWork

variable {ρ β σ ε : Type}

/-- The unit of work over `repository` and `dispatcher` in which nothing happened. -/
def new (repository : ρ) (dispatcher : Dispatcher β) : UnitOfWork ρ β σ ε :=
  ⟨repository, dispatcher, [], []⟩

/-- Stages `change` behind the writes that are staged. -/
def register (u : UnitOfWork ρ β σ ε) (change : Change σ ε) : UnitOfWork ρ β σ ε :=
  { u with staged := u.staged ++ [change] }

/-- The unit of work with its bus in the state `bus`. -/
def withBus (u : UnitOfWork ρ β σ ε) (bus : β) : UnitOfWork ρ β σ ε :=
  { u with dispatcher := { u.dispatcher with bus } }

/-- Whether there is anything in `staged` or in `written`. -/
def hasChanges (u : UnitOfWork ρ β σ ε) : Bool :=
  !u.staged.isEmpty || !u.written.isEmpty

/-- Discards the `staged` writes. -/
def rollback (u : UnitOfWork ρ β σ ε) : UnitOfWork ρ β σ ε :=
  { u with staged := [] }

/-- Applies the staged writes (`Change.applyAll`), up to the first one that is refused. It and those
behind it stay staged. -/
def applyStaged [Repository ρ σ ε] (u : UnitOfWork ρ β σ ε) :
    Option RepositoryError × UnitOfWork ρ β σ ε :=
  let application := Change.applyAll u.repository u.staged
  (application.refusal,
    { u with
      repository := application.repository
      staged := application.left
      written := u.written ++ application.written })

/-- Publishes the events of the written aggregates (`Dispatcher.dispatchAll`), up to the first
failure. -/
def publishWritten [EventBus β Envelope] [AggregateKind σ] [DomainEvent ε]
    (u : UnitOfWork ρ β σ ε) : Except PublishError (List Envelope) × UnitOfWork ρ β σ ε :=
  let publication := u.dispatcher.dispatchAll u.written
  let u := { u with dispatcher := publication.dispatcher, written := publication.left }
  match publication.failure with
  | some e => (.error e, u)
  | none => (.ok publication.published, u)

/-- Applies the staged writes (`applyStaged`) and, if none is refused, publishes their events
(`publishWritten`). The answer holds the envelopes. -/
def commit [Repository ρ σ ε] [EventBus β Envelope] [AggregateKind σ] [DomainEvent ε]
    (u : UnitOfWork ρ β σ ε) : Except CommitError (List Envelope) × UnitOfWork ρ β σ ε :=
  match u.applyStaged with
  | (some e, u) => (.error (.refused e), u)
  | (none, u) =>
    let (outcome, u) := u.publishWritten
    (outcome.mapError .unpublished, u)

/-- The text of a unit of work. -/
def describe (u : UnitOfWork ρ β σ ε) : String :=
  "RepositoryUnitOfWork \x7b staged: " ++ toString u.staged.length ++ ", unpublished: " ++
    toString u.written.length ++ ", .. \x7d"

end UnitOfWork

end Quarry
