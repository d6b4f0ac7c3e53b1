import Quarry.Repository

/-!
# Repositories in memory

Aggregates are kept as they are, but without their pending events. Every specification is evaluated
on the aggregates themselves.
-/

namespace Quarry

/-- The aggregates that are `stored`, under their identifiers. -/
structure MemoryRepository (σ ε : Type) where
  stored : SortedMap EntityId (Aggregate σ ε)

namespace MemoryRepository

variable {σ ε : Type}

/-- The repository without aggregates. -/
def empty : MemoryRepository σ ε := ⟨.empty⟩

/-- The number of aggregates. -/
def size (r : MemoryRepository σ ε) : Nat := r.stored.size

/-- The aggregates in the order of their identifiers. -/
def aggregates (r : MemoryRepository σ ε) : List (Aggregate σ ε) := r.stored.values

/-- The repository with `a` under its identifier, without pending events. -/
def put (r : MemoryRepository σ ε) (a : Aggregate σ ε) : MemoryRepository σ ε :=
  ⟨r.stored.insert a.id a.clearEvents⟩

variable [AggregateKind σ]

/-- Stores `a` as a new aggregate, with the version 1. -/
def add (r : MemoryRepository σ ε) (a : Aggregate σ ε) :
    Except RepositoryError (Aggregate σ ε) × MemoryRepository σ ε :=
  if r.stored.contains a.id then (.error (AggregateKind.duplicate σ a.id), r)
  else (.ok (a.atVersion 1), r.put (a.atVersion 1))

/-- Replaces the aggregate under the identifier of `a`, whose version has to be that of `a`, by `a`
with the next version. -/
def update (r : MemoryRepository σ ε) (a : Aggregate σ ε) :
    Except RepositoryError (Aggregate σ ε) × MemoryRepository σ ε :=
  match r.stored.find? a.id with
  | none => (.error (AggregateKind.notFound σ a.id), r)
  | some stored =>
    match RepositoryError.checkVersion (.exact a.version) stored.version with
    | .error e => (.error e, r)
    | .ok () =>
      let written := a.atVersion (stored.version + 1)
      (.ok written, r.put written)

/-- Removes the aggregate under `id`, whose version has to be `expected`. -/
def remove (r : MemoryRepository σ ε) (id : EntityId) (expected : ExpectedVersion) :
    Except RepositoryError Unit × MemoryRepository σ ε :=
  match r.stored.find? id with
  | none => (.error (AggregateKind.notFound σ id), r)
  | some stored =>
    match RepositoryError.checkVersion expected stored.version with
    | .error e => (.error e, r)
    | .ok () => (.ok (), ⟨r.stored.erase id⟩)

instance [Record (Aggregate σ ε)] : Repository (MemoryRepository σ ε) σ ε where
  get r id := .ok (r.stored.find? id)
  add := add
  update := update
  remove := remove
  find r s := (s.select r.aggregates).mapError .evaluation
  count r s := (s.count r.aggregates).mapError .evaluation
  calls r s := s.selectCalls r.aggregates

end MemoryRepository

end Quarry
