import Quarry.Aggregate
import Quarry.Repository.Error
import Quarry.Specification.Paged

/-!
# Repositories

A repository stores aggregates by their identifiers and answers specifications. Writing is guarded
by versions: a new aggregate gets version one, and an update is accepted only from a caller who has
seen the stored version, which then grows by one. A write gives the aggregate back as the caller has
to keep it; a refused write leaves the caller with what it had.

How a specification is answered is left to the repository, but the answers come in the order of the
identifiers, so that sorting them by a key leaves nothing open.
-/

namespace Quarry

/-- Repositories of type `ρ` for aggregates with states of type `σ` and events of type `ε`. -/
class Repository (ρ : Type) (σ ε : outParam Type) where
  /-- The aggregate with an identifier. -/
  get : ρ → EntityId → Except RepositoryError (Option (Aggregate σ ε))
  /-- Stores a new aggregate: the aggregate as stored, and the repository afterwards. -/
  add : ρ → Aggregate σ ε → Except RepositoryError (Aggregate σ ε) × ρ
  /-- Replaces an aggregate whose stored version the caller knows. -/
  update : ρ → Aggregate σ ε → Except RepositoryError (Aggregate σ ε) × ρ
  /-- Removes an aggregate whose stored version is as expected. -/
  remove : ρ → EntityId → ExpectedVersion → Except RepositoryError Unit × ρ
  /-- The aggregates that satisfy a specification. -/
  find : ρ → Specification (Aggregate σ ε) → Except RepositoryError (List (Aggregate σ ε))
  /-- The number of aggregates that satisfy a specification. -/
  count : ρ → Specification (Aggregate σ ε) → Except RepositoryError Nat
  /-- The names of the predicates that are called to answer a specification, in order. -/
  calls : ρ → Specification (Aggregate σ ε) → List String

/-- There is no aggregate of the kind of `σ` with the identifier `id`. -/
def AggregateKind.notFound (σ : Type) [AggregateKind σ] (id : EntityId) : RepositoryError :=
  .notFound (AggregateKind.name σ) id.render

/-- There is an aggregate of the kind of `σ` with the identifier `id` already. -/
def AggregateKind.duplicate (σ : Type) [AggregateKind σ] (id : EntityId) : RepositoryError :=
  .duplicate (AggregateKind.name σ) id.render

namespace Repository

variable {ρ σ ε : Type} [Repository ρ σ ε]

/-- The aggregate with the identifier `id`, which has to be there. -/
def load [AggregateKind σ] (r : ρ) (id : EntityId) : Except RepositoryError (Aggregate σ ε) :=
  match get r id with
  | .ok (some a) => .ok a
  | .ok none => .error (AggregateKind.notFound σ id)
  | .error e => .error e

/-- Some aggregate satisfies `s`: the number of those that do is not zero. -/
def holdsAny (r : ρ) (s : Specification (Aggregate σ ε)) : Except RepositoryError Bool :=
  (count r s).map (0 < ·)

/-- The page of `p` of the aggregates that satisfy its specification, sorted by its order. -/
def findPaged (r : ρ) (p : PagedSpecification (Aggregate σ ε)) :
    Except RepositoryError (List (Aggregate σ ε)) :=
  match find r p.specification with
  | .ok found => (p.window found).mapError .evaluation
  | .error e => .error e

end Repository

end Quarry
