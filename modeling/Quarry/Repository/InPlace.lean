import Quarry.Repository.Document
import Quarry.Repository.Memory

/-!
# Writing in place

A caller does not hand over the aggregate that it writes. The repository works on it where it is: it
gives it the version of the write, and a repository of documents does so before it knows whether the
write is accepted, because the document holds the version. So a write is a computation on the
caller's aggregate and on the repository at once, and if it fails, all stays as it is at that
moment. Whatever has been done to the caller's aggregate by then has to be taken back.
-/

namespace Quarry

/-- What a write in place works on: the caller's `aggregate` and a `repository`. -/
structure Workplace (ρ σ ε : Type) where
  aggregate : Aggregate σ ε
  repository : ρ

/-- Computations on the `Workplace` of a caller. A failure takes nothing back. -/
abbrev InPlace (ρ σ ε : Type) := ExceptT RepositoryError (StateM (Workplace ρ σ ε))

/-- The caller's aggregate as it is at the moment. -/
def InPlace.current {ρ σ ε : Type} : InPlace ρ σ ε (Aggregate σ ε) := do
  return (← get).aggregate

/-- Gives the caller's aggregate the version `version`. -/
def InPlace.stamp {ρ σ ε : Type} (version : UInt64) : InPlace ρ σ ε Unit :=
  modify fun w => { w with aggregate := w.aggregate.atVersion version }

/-- Gives `outcome`, to which nothing has to be done. -/
def InPlace.ofOutcome {ρ σ ε : Type} (outcome : Except RepositoryError Unit) :
    InPlace ρ σ ε Unit :=
  ExceptT.mk (pure outcome)

/-- Repositories of type `ρ` that write aggregates where they are. -/
class InPlaceRepository (ρ : Type) (σ ε : outParam Type) where
  /-- Stores the caller's aggregate as a new one. -/
  add : InPlace ρ σ ε Unit
  /-- Replaces a stored aggregate by the caller's one. -/
  update : InPlace ρ σ ε Unit
  /-- Removes a stored aggregate; the caller's one has no part in it. -/
  remove : EntityId → ExpectedVersion → InPlace ρ σ ε Unit

/-- A write that a caller asks for. -/
inductive WriteCall where
  /-- The caller's aggregate is to be stored as a new one. -/
  | add
  /-- The caller's aggregate is to replace the stored one. -/
  | update
  /-- A stored aggregate is to be removed. -/
  | remove (id : EntityId) (expected : ExpectedVersion)

/-- What comes of `call`, and what the caller and the repository have afterwards. -/
def WriteCall.runOn {ρ σ ε : Type} [InPlaceRepository ρ σ ε] (call : WriteCall)
    (w : Workplace ρ σ ε) : Except RepositoryError Unit × Workplace ρ σ ε :=
  match call with
  | .add => InPlaceRepository.add.run.run w
  | .update => InPlaceRepository.update.run.run w
  | .remove id expected => (InPlaceRepository.remove id expected).run.run w

/-- The removal of the aggregate under `id`, to which the caller's aggregate does not matter. -/
def InPlace.remove {ρ σ ε : Type} [Repository ρ σ ε] (id : EntityId) (expected : ExpectedVersion) :
    InPlace ρ σ ε Unit := do
  let w ← get
  let (outcome, repository) := Repository.remove w.repository id expected
  set { w with repository }
  ofOutcome outcome

open InPlace (current ofOutcome stamp)

/-! ## In memory -/

namespace MemoryRepository

variable {σ ε : Type}

/-- Puts the caller's aggregate under its identifier, without its pending events. -/
def keepInPlace : InPlace (MemoryRepository σ ε) σ ε Unit :=
  modify fun w => { w with repository := w.repository.put w.aggregate }

variable [AggregateKind σ]

/-- Stores the caller's aggregate as a new one, with the version `1`. -/
def addInPlace : InPlace (MemoryRepository σ ε) σ ε Unit := do
  let w ← get
  if w.repository.stored.contains w.aggregate.id then
    throw (AggregateKind.duplicate σ w.aggregate.id)
  stamp 1
  keepInPlace

/-- Replaces the stored aggregate by the caller's one, which gets the next version. -/
def updateInPlace : InPlace (MemoryRepository σ ε) σ ε Unit := do
  let w ← get
  match w.repository.stored.find? w.aggregate.id with
  | none => throw (AggregateKind.notFound σ w.aggregate.id)
  | some stored =>
    ofOutcome (RepositoryError.checkVersion (.exact w.aggregate.version) stored.version)
    stamp (stored.version + 1)
    keepInPlace

instance [Record (Aggregate σ ε)] : InPlaceRepository (MemoryRepository σ ε) σ ε where
  add := addInPlace
  update := updateInPlace
  remove := InPlace.remove

end MemoryRepository

/-! ## In stores of documents -/

namespace DocumentRepository

variable {σ ε : Type} [JsonCodec (Aggregate σ ε)]

/-- The body of the document of the caller's aggregate at `version`, which the aggregate gets. It
gets back the version that it had if it cannot be written. -/
def encodeInPlace (version : UInt64) : InPlace (DocumentRepository σ ε) σ ε Json := do
  let previous := (← current).version
  stamp version
  match JsonCodec.store (← current) with
  | .ok body => pure body
  | .error e =>
    stamp previous
    throw (.serialization (.encode e))

variable [AggregateKind σ]

/-- Applies `change` to the collection of the kind and tells what came of it. -/
def writeInPlace (change : DocumentCollection → Except RepositoryError DocumentCollection) :
    InPlace (DocumentRepository σ ε) σ ε (Except RepositoryError Unit) :=
  modifyGet fun w =>
    let (outcome, store) := w.repository.store.write (AggregateKind.name σ) change
    (outcome, { w with repository := ⟨store⟩ })

/-- Writes the document of the caller's aggregate at `version`, if `check` accepts the collection.
The aggregate gets back the version that it had otherwise. -/
def putInPlace (version : UInt64) (check : DocumentCollection → Except RepositoryError Unit) :
    InPlace (DocumentRepository σ ε) σ ε Unit := do
  let a ← current
  let body ← encodeInPlace version
  let outcome ← writeInPlace fun collection =>
    (check collection).map fun () => collection.insert a.id.render ⟨version, body⟩
  match outcome with
  | .ok () => pure ()
  | .error e =>
    stamp a.version
    throw e

/-- Stores the caller's aggregate as a new one, with the version 1 (`putInPlace`). -/
def addInPlace : InPlace (DocumentRepository σ ε) σ ε Unit := do
  let a ← current
  putInPlace 1 fun collection => collection.checkAbsent σ a.id

/-- Replaces the stored aggregate by the caller's one, which gets the next version (`putInPlace`).
-/
def updateInPlace : InPlace (DocumentRepository σ ε) σ ε Unit := do
  let a ← current
  putInPlace (a.version + 1) fun collection => collection.checkStored σ a.id (.exact a.version)

instance [Record (Aggregate σ ε)] : InPlaceRepository (DocumentRepository σ ε) σ ε where
  add := addInPlace
  update := updateInPlace
  remove := InPlace.remove

end DocumentRepository

end Quarry
