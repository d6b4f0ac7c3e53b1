import Quarry.Repository

/-!
# Repositories of documents

Aggregates are kept as JSON documents in collections, one collection for each kind of aggregates,
and the documents of a collection under the texts of their identifiers. A specification without
predicates is a filter and is evaluated on the documents, so that only those that pass have to be
read. For any other specification all documents are read first.
-/

namespace Quarry

/-! ## Stores -/

/-- An aggregate as JSON, with the `version` that it was written at. -/
structure StoredDocument where
  version : UInt64
  body : Json

/-- The fields of a stored document are those of its `body`. -/
instance : Record StoredDocument := ⟨fun d name => Record.field? d.body name⟩

/-- Documents under the texts of their identifiers. -/
abbrev DocumentCollection := SortedMap String StoredDocument

/-- Checks that `c` has an aggregate under `id`, and at the version `expected`. -/
def DocumentCollection.checkStored (σ : Type) [AggregateKind σ] (c : DocumentCollection)
    (id : EntityId) (expected : ExpectedVersion) : Except RepositoryError Unit :=
  match c.find? id.render with
  | none => .error (AggregateKind.notFound σ id)
  | some d => RepositoryError.checkVersion expected d.version

/-- Checks that `c` does not have an aggregate under `id`. -/
def DocumentCollection.checkAbsent (σ : Type) [AggregateKind σ] (c : DocumentCollection)
    (id : EntityId) : Except RepositoryError Unit :=
  if c.contains id.render then .error (AggregateKind.duplicate σ id) else .ok ()

/-- The collections of documents by their names, the kinds of aggregates. -/
structure DocumentStore where
  collections : SortedMap String DocumentCollection

namespace DocumentStore

/-- The store without collections. -/
def empty : DocumentStore := ⟨.empty⟩

/-- The names of the collections of `s` in order. -/
def collectionNames (s : DocumentStore) : List String := s.collections.keys

/-- The collection under `name`; it is empty if nothing was ever written to it. -/
def collection (s : DocumentStore) (name : String) : DocumentCollection :=
  (s.collections.find? name).getD .empty

/-- The documents of the collection under `name` in the order of their identifiers. -/
def documents (s : DocumentStore) (name : String) : List StoredDocument :=
  (s.collection name).values

/-- Applies `change` to the collection under `name`. The collection is there afterwards, also if
`change` refuses. -/
def write (s : DocumentStore) (name : String)
    (change : DocumentCollection → Except RepositoryError DocumentCollection) :
    Except RepositoryError Unit × DocumentStore :=
  match change (s.collection name) with
  | .ok changed => (.ok (), ⟨s.collections.insert name changed⟩)
  | .error e => (.error e, ⟨s.collections.insert name (s.collection name)⟩)

end DocumentStore

/-! ## Repositories -/

/-- The aggregates in `store` of the kind of `σ`. -/
structure DocumentRepository (σ ε : Type) where
  store : DocumentStore

namespace DocumentRepository

variable {σ ε : Type}

/-- The repository in a store without collections. -/
def empty : DocumentRepository σ ε := ⟨.empty⟩

/-- Reads an aggregate from `d`, whose version it gets. -/
def read [JsonCodec (Aggregate σ ε)] (d : StoredDocument) :
    Except RepositoryError (Aggregate σ ε) :=
  match JsonCodec.decode d.body with
  | .ok (a : Aggregate σ ε) => .ok (a.atVersion d.version)
  | .error e => .error (.serialization (.decode e))

/-- Reads aggregates. The first one that cannot be read is reported. -/
def readAll [JsonCodec (Aggregate σ ε)] :
    List StoredDocument → Except RepositoryError (List (Aggregate σ ε))
  | [] => .ok []
  | d :: rest =>
    match read d with
    | .ok a => (readAll rest).map (a :: ·)
    | .error e => .error e

/-- The document of the aggregate `a` at its version, if it can be written. -/
def documentOf [JsonCodec (Aggregate σ ε)] (a : Aggregate σ ε) :
    Except RepositoryError StoredDocument :=
  match JsonCodec.store a with
  | .ok body => .ok ⟨a.version, body⟩
  | .error e => .error (.serialization (.encode e))

variable [AggregateKind σ] [JsonCodec (Aggregate σ ε)]

/-- The documents of `r` in the order of their identifiers. -/
def documents (r : DocumentRepository σ ε) : List StoredDocument :=
  r.store.documents (AggregateKind.name σ)

/-- The aggregate with the identifier `id`, if there is one. -/
def get (r : DocumentRepository σ ε) (id : EntityId) :
    Except RepositoryError (Option (Aggregate σ ε)) :=
  match (r.store.collection (AggregateKind.name σ)).find? id.render with
  | some d => (read d).map some
  | none => .ok none

/-- Writes the document of `a` under its identifier, if `check` accepts the collection. -/
def put (r : DocumentRepository σ ε) (a : Aggregate σ ε)
    (check : DocumentCollection → Except RepositoryError Unit) :
    Except RepositoryError (Aggregate σ ε) × DocumentRepository σ ε :=
  match documentOf a with
  | .error e => (.error e, r)
  | .ok d =>
    let (outcome, store) := r.store.write (AggregateKind.name σ) fun collection =>
      (check collection).map fun () => collection.insert a.id.render d
    (outcome.map fun () => a, ⟨store⟩)

/-- Stores `a` as a new aggregate, at version 1. -/
def add (r : DocumentRepository σ ε) (a : Aggregate σ ε) :
    Except RepositoryError (Aggregate σ ε) × DocumentRepository σ ε :=
  r.put (a.atVersion 1) fun collection => collection.checkAbsent σ a.id

/-- Replaces the aggregate under the identifier of `a`, whose version has to be that of `a`, by `a`
at the next version. -/
def update (r : DocumentRepository σ ε) (a : Aggregate σ ε) :
    Except RepositoryError (Aggregate σ ε) × DocumentRepository σ ε :=
  r.put (a.atVersion (a.version + 1)) fun collection =>
    collection.checkStored σ a.id (.exact a.version)

/-- Removes the aggregate under `id`, whose version has to be `expected`. -/
def remove (r : DocumentRepository σ ε) (id : EntityId) (expected : ExpectedVersion) :
    Except RepositoryError Unit × DocumentRepository σ ε :=
  let (outcome, store) := r.store.write (AggregateKind.name σ) fun collection =>
    (collection.checkStored σ id expected).map fun () => collection.erase id.render
  (outcome, ⟨store⟩)

variable [Record (Aggregate σ ε)]

/-- The aggregates that satisfy `s`. If `s` is a filter, documents are tested before they are read,
and only those that pass are read. -/
def find (r : DocumentRepository σ ε) (s : Specification (Aggregate σ ε)) :
    Except RepositoryError (List (Aggregate σ ε)) :=
  match s.toFilter? with
  | some f =>
    match f.select r.documents with
    | .ok documents => readAll documents
    | .error e => .error (.evaluation e)
  | none =>
    match readAll r.documents with
    | .ok aggregates => (s.select aggregates).mapError .evaluation
    | .error e => .error e

/-- The number of aggregates that satisfy `s`. If `s` is a filter, the documents that pass it are
counted without being read. -/
def count (r : DocumentRepository σ ε) (s : Specification (Aggregate σ ε)) :
    Except RepositoryError Nat :=
  match s.toFilter? with
  | some f => (f.count r.documents).mapError .evaluation
  | none => (r.find s).map List.length

/-- The names of the predicates that are called to answer `s`: none if `s` is a filter. -/
def calls (r : DocumentRepository σ ε) (s : Specification (Aggregate σ ε)) : List String :=
  if s.isFilter then []
  else
    match readAll r.documents with
    | .ok aggregates => s.selectCalls aggregates
    | .error _ => []

instance : Repository (DocumentRepository σ ε) σ ε := ⟨get, add, update, remove, find, count, calls⟩

end DocumentRepository

end Quarry
