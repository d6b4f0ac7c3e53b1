import Quarry.Repository.InPlace
import Quarry.UnitOfWork

/-!
# Commits in place

A unit of work owns the aggregates that are registered with it and hands them to the repository
where they are. So what it puts back when a write is refused is not the write as it was registered
but the write as the repository has left it, and that is what the next commit tries.
-/

namespace Quarry

namespace Change

variable {ρ σ ε : Type}

/-- The aggregate that is written. -/
def aggregate : Change σ ε → Aggregate σ ε
  | .add a => a
  | .update a => a
  | .remove a => a

/-- The write `change` with `a` as its aggregate. -/
def withAggregate (change : Change σ ε) (a : Aggregate σ ε) : Change σ ε :=
  match change with
  | .add _ => .add a
  | .update _ => .update a
  | .remove _ => .remove a

/-- The call by which the repository is asked for a write. -/
def call : Change σ ε → WriteCall
  | .add _ => .add
  | .update _ => .update
  | .remove a => .remove a.id (.exact a.version)

variable [InPlaceRepository ρ σ ε]

/-- Applies `change` to its aggregate: what came of it, the write with the aggregate as it is then,
and the repository afterwards. -/
def applyInPlace (r : ρ) (change : Change σ ε) :
    Except RepositoryError Unit × Change σ ε × ρ :=
  let (outcome, w) := change.call.runOn ⟨change.aggregate, r⟩
  (outcome, change.withAggregate w.aggregate, w.repository)

/-- Applies writes one after the other (`applyInPlace`), up to the first one that is refused. -/
def applyAllInPlace : ρ → List (Change σ ε) → Application ρ σ ε
  | r, [] => ⟨r, [], [], none⟩
  | r, change :: rest =>
    match change.applyInPlace r with
    | (.ok (), change, r) =>
      let application := applyAllInPlace r rest
      { application with written := change.aggregate :: application.written }
    | (.error e, change, r) => ⟨r, [], change :: rest, some e⟩

end Change

namespace UnitOfWork

variable {ρ β σ ε : Type} [InPlaceRepository ρ σ ε]

/-- Applies the staged writes in place, up to the first one that is refused, which stays staged with
its aggregate as it is then. -/
def applyStagedInPlace (u : UnitOfWork ρ β σ ε) : Option RepositoryError × UnitOfWork ρ β σ ε :=
  let application := Change.applyAllInPlace u.repository u.staged
  (application.refusal,
    { u with
      repository := application.repository
      staged := application.left
      written := u.written ++ application.written })

/-- Applies the staged writes in place (`applyStagedInPlace`) and, if none is refused, publishes
their events (`publishWritten`). -/
def commitInPlace [EventBus β Envelope] [AggregateKind σ] [DomainEvent ε]
    (u : UnitOfWork ρ β σ ε) : Except CommitError (List Envelope) × UnitOfWork ρ β σ ε :=
  match u.applyStagedInPlace with
  | (some e, u) => (.error (.refused e), u)
  | (none, u) =>
    let (outcome, u) := u.publishWritten
    (outcome.mapError .unpublished, u)

end UnitOfWork

end Quarry
