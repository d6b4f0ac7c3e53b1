import Quarry.Proofs.SortedMap
import Quarry.Repository.Document
import Quarry.Repository.Memory

/-!
# What a write does to a repository

For each write the cases that there are: what the repository held, what it answers, and what it
holds afterwards. Invariants and simulations go by these cases and do not open the operations again.

A refused write leaves a repository in memory as it was. In a store of documents it leaves every
document as it was, but the collection of the kind is there afterwards even if it was not before
(`DocumentStore.touch`).
-/

namespace Quarry

/-! ## Versions -/

namespace RepositoryError

/-- An expected version that accepts the `actual` one passes the check. -/
theorem checkVersion_of_accepts {expected : ExpectedVersion} {actual : UInt64}
    (h : expected.accepts actual = true) : checkVersion expected actual = .ok () := by
  have hcheck : expected.check actual = .ok () := by
    rw [ExpectedVersion.check, h]
    rfl
  rw [checkVersion, hcheck]
  rfl

/-- An expected version that does not accept the `actual` one is reported as stale. -/
theorem checkVersion_of_not_accepts {expected : ExpectedVersion} {actual : UInt64}
    (h : expected.accepts actual = false) :
    checkVersion expected actual = .error (.concurrency (.staleVersion expected actual)) := by
  have hcheck : expected.check actual =
        .error (.conflict (.staleVersion expected actual)) := by
    rw [ExpectedVersion.check, h]
    rfl
  rw [checkVersion, hcheck]
  rfl

end RepositoryError

@[simp] theorem ExpectedVersion.accepts_exact {version actual : UInt64} :
    (ExpectedVersion.exact version).accepts actual = true ↔ actual = version := by
  rw [accepts, beq_iff_eq]
  exact eq_comm

/-! ## In memory -/

namespace MemoryRepository

variable {σ ε : Type} [AggregateKind σ]

/-- An aggregate is added if none is stored under its identifier, and otherwise it is reported as a
duplicate. -/
theorem add_cases (r : MemoryRepository σ ε) (a : Aggregate σ ε) :
    (r.stored.find? a.id = none ∧ r.add a = (.ok (a.atVersion 1), r.put (a.atVersion 1))) ∨
    ∃ b, r.stored.find? a.id = some b ∧ r.add a = (.error (AggregateKind.duplicate σ a.id), r) := by
  unfold add SortedMap.contains
  cases h : r.stored.find? a.id with
  | none => exact Or.inl ⟨rfl, rfl⟩
  | some b => exact Or.inr ⟨b, rfl, rfl⟩

/-- An aggregate is updated if one of its version is stored. Otherwise it is not found or stale. -/
theorem update_cases (r : MemoryRepository σ ε) (a : Aggregate σ ε) :
    (r.stored.find? a.id = none ∧
      r.update a = (.error (AggregateKind.notFound σ a.id), r)) ∨
    (∃ b, r.stored.find? a.id = some b ∧ b.version ≠ a.version ∧
      r.update a = (.error (.concurrency (.staleVersion (.exact a.version) b.version)), r)) ∨
    ∃ b, r.stored.find? a.id = some b ∧ b.version = a.version ∧
      r.update a = (.ok (a.atVersion (a.version + 1)), r.put (a.atVersion (a.version + 1))) := by
  unfold update
  cases h : r.stored.find? a.id with
  | none => exact Or.inl ⟨rfl, rfl⟩
  | some b =>
    by_cases hv : b.version = a.version
    · refine Or.inr (Or.inr ⟨b, rfl, hv, ?_⟩)
      have hok := RepositoryError.checkVersion_of_accepts (ExpectedVersion.accepts_exact.mpr hv)
      rw [hv] at hok
      simp only [hv, hok]
    · refine Or.inr (Or.inl ⟨b, rfl, hv, ?_⟩)
      have hno : (ExpectedVersion.exact a.version).accepts b.version = false := by
        rw [← Bool.not_eq_true, ExpectedVersion.accepts_exact]
        exact hv
      simp only [RepositoryError.checkVersion_of_not_accepts hno]

/-- An aggregate is removed if one is stored whose version is accepted. Otherwise it is not found or
stale. -/
theorem remove_cases (r : MemoryRepository σ ε) (id : EntityId) (expected : ExpectedVersion) :
    (r.stored.find? id = none ∧
      r.remove id expected = (.error (AggregateKind.notFound σ id), r)) ∨
    (∃ b, r.stored.find? id = some b ∧ expected.accepts b.version = false ∧
      r.remove id expected = (.error (.concurrency (.staleVersion expected b.version)), r)) ∨
    ∃ b, r.stored.find? id = some b ∧ expected.accepts b.version = true ∧
      r.remove id expected = (.ok (), ⟨r.stored.erase id⟩) := by
  unfold remove
  cases h : r.stored.find? id with
  | none => exact Or.inl ⟨rfl, rfl⟩
  | some b =>
    cases hv : expected.accepts b.version with
    | false =>
      refine Or.inr (Or.inl ⟨b, rfl, hv, ?_⟩)
      simp only [RepositoryError.checkVersion_of_not_accepts hv]
    | true =>
      refine Or.inr (Or.inr ⟨b, rfl, hv, ?_⟩)
      simp only [RepositoryError.checkVersion_of_accepts hv]

end MemoryRepository

/-! ## In stores of documents -/

namespace DocumentStore

/-- The store with the documents `c` in the collection `name`. -/
def withCollection (s : DocumentStore) (name : String) (c : DocumentCollection) : DocumentStore :=
  ⟨s.collections.insert name c⟩

/-- The store after a write to the collection `name` that left its documents as they were. -/
def touch (s : DocumentStore) (name : String) : DocumentStore :=
  s.withCollection name (s.collection name)

@[simp] theorem collection_withCollection_self (s : DocumentStore) (name : String)
    (c : DocumentCollection) : (s.withCollection name c).collection name = c := by
  simp [collection, withCollection]

theorem collection_withCollection_of_ne (s : DocumentStore) {name other : String}
    (h : other ≠ name) (c : DocumentCollection) :
    (s.withCollection name c).collection other = s.collection other := by
  unfold collection withCollection
  rw [SortedMap.find?_insert_of_ne _ h]

/-- A refused write leaves the documents of every collection as they were. -/
@[simp] theorem collection_touch (s : DocumentStore) (name other : String) :
    (s.touch name).collection other = s.collection other := by
  by_cases h : other = name
  · subst h
    exact collection_withCollection_self s _ _
  · exact collection_withCollection_of_ne s h _

/-- A refused write leaves the store as it is just if the store has the collection. -/
theorem touch_eq_self_iff {s : DocumentStore} {name : String} :
    s.touch name = s ↔ s.collections.find? name ≠ none := by
  constructor
  · intro h hnone
    have hsome : (s.touch name).collections.find? name = some (s.collection name) :=
      SortedMap.find?_insert_self _ _ _
    rw [h, hnone] at hsome
    cases hsome
  · intro h
    obtain ⟨c, hc⟩ := Option.ne_none_iff_exists'.mp h
    have hcol : s.collection name = c := by simp [collection, hc]
    unfold touch withCollection
    rw [hcol, SortedMap.insert_of_find? hc]

/-- An accepted change puts the changed documents into the collection. -/
theorem write_of_ok {s : DocumentStore} {name : String}
    {change : DocumentCollection → Except RepositoryError DocumentCollection}
    {c : DocumentCollection} (h : change (s.collection name) = .ok c) :
    s.write name change = (.ok (), s.withCollection name c) := by
  unfold write
  rw [h]
  rfl

/-- A refused change leaves a collection where there may have been none. -/
theorem write_of_error {s : DocumentStore} {name : String}
    {change : DocumentCollection → Except RepositoryError DocumentCollection}
    {e : RepositoryError} (h : change (s.collection name) = .error e) :
    s.write name change = (.error e, s.touch name) := by
  unfold write
  rw [h]
  rfl

end DocumentStore

namespace DocumentCollection

variable {σ : Type} [AggregateKind σ]

theorem checkAbsent_of_none {c : DocumentCollection} {id : EntityId}
    (h : c.find? id.render = none) : c.checkAbsent σ id = .ok () := by
  simp [checkAbsent, SortedMap.contains, h]

theorem checkAbsent_of_some {c : DocumentCollection} {id : EntityId} {d : StoredDocument}
    (h : c.find? id.render = some d) :
    c.checkAbsent σ id = .error (AggregateKind.duplicate σ id) := by
  simp [checkAbsent, SortedMap.contains, h]

theorem checkStored_of_none {c : DocumentCollection} {id : EntityId} {expected : ExpectedVersion}
    (h : c.find? id.render = none) :
    c.checkStored σ id expected = .error (AggregateKind.notFound σ id) := by
  simp [checkStored, h]

theorem checkStored_of_some {c : DocumentCollection} {id : EntityId} {expected : ExpectedVersion}
    {d : StoredDocument} (h : c.find? id.render = some d) :
    c.checkStored σ id expected = RepositoryError.checkVersion expected d.version := by
  simp [checkStored, h]

/-- What a collection answers that is asked for the aggregate `id` at an `expected` version. -/
theorem checkStored_cases (c : DocumentCollection) (id : EntityId) (expected : ExpectedVersion) :
    (c.find? id.render = none ∧
      c.checkStored σ id expected = .error (AggregateKind.notFound σ id)) ∨
    (∃ b, c.find? id.render = some b ∧ expected.accepts b.version = false ∧
      c.checkStored σ id expected = .error (.concurrency (.staleVersion expected b.version))) ∨
    ∃ b, c.find? id.render = some b ∧ expected.accepts b.version = true ∧
      c.checkStored σ id expected = .ok () := by
  cases hb : c.find? id.render with
  | none => exact Or.inl ⟨rfl, checkStored_of_none hb⟩
  | some b =>
    rw [checkStored_of_some hb]
    cases hv : expected.accepts b.version with
    | false =>
      exact Or.inr (Or.inl ⟨b, rfl, hv, RepositoryError.checkVersion_of_not_accepts hv⟩)
    | true => exact Or.inr (Or.inr ⟨b, rfl, hv, RepositoryError.checkVersion_of_accepts hv⟩)

end DocumentCollection

namespace DocumentRepository

variable {σ ε : Type} [AggregateKind σ]

/-- The documents of `r` by their keys. -/
def stored (r : DocumentRepository σ ε) : DocumentCollection :=
  r.store.collection (AggregateKind.name σ)

/-- The repository with the documents `c` in place of its own. -/
def withStored (r : DocumentRepository σ ε) (c : DocumentCollection) : DocumentRepository σ ε :=
  ⟨r.store.withCollection (AggregateKind.name σ) c⟩

/-- The repository after a write that its collection refused. -/
def touched (r : DocumentRepository σ ε) : DocumentRepository σ ε :=
  ⟨r.store.touch (AggregateKind.name σ)⟩

@[simp] theorem stored_withStored (r : DocumentRepository σ ε) (c : DocumentCollection) :
    (r.withStored c).stored = c :=
  DocumentStore.collection_withCollection_self _ _ _

@[simp] theorem stored_touched (r : DocumentRepository σ ε) : r.touched.stored = r.stored :=
  DocumentStore.collection_touch _ _ _

/-- A refused write is seen at `r` itself only if the collection was missing. -/
theorem touched_eq_self_iff {r : DocumentRepository σ ε} :
    r.touched = r ↔ r.store.collections.find? (AggregateKind.name σ) ≠ none := by
  rw [← DocumentStore.touch_eq_self_iff]
  exact ⟨fun h => congrArg store h, fun h => congrArg mk h⟩

theorem remove_of_ok {r : DocumentRepository σ ε} {id : EntityId} {expected : ExpectedVersion}
    (hcheck : r.stored.checkStored σ id expected = .ok ()) :
    r.remove id expected = (.ok (), r.withStored (r.stored.erase id.render)) := by
  unfold remove
  rw [DocumentStore.write_of_ok (by rw [← stored, hcheck]; rfl)]
  rfl

theorem remove_of_refused {r : DocumentRepository σ ε} {id : EntityId}
    {expected : ExpectedVersion} {e : RepositoryError}
    (hcheck : r.stored.checkStored σ id expected = .error e) :
    r.remove id expected = (.error e, r.touched) := by
  unfold remove
  rw [DocumentStore.write_of_error (by rw [← stored, hcheck]; rfl)]
  rfl

/-- As `MemoryRepository.remove_cases`, with `touched` where the collection refuses the removal. -/
theorem remove_cases (r : DocumentRepository σ ε) (id : EntityId) (expected : ExpectedVersion) :
    (r.stored.find? id.render = none ∧
      r.remove id expected = (.error (AggregateKind.notFound σ id), r.touched)) ∨
    (∃ b, r.stored.find? id.render = some b ∧ expected.accepts b.version = false ∧
      r.remove id expected =
        (.error (.concurrency (.staleVersion expected b.version)), r.touched)) ∨
    ∃ b, r.stored.find? id.render = some b ∧ expected.accepts b.version = true ∧
      r.remove id expected = (.ok (), r.withStored (r.stored.erase id.render)) := by
  rcases DocumentCollection.checkStored_cases (σ := σ) r.stored id expected with
    ⟨hb, hs⟩ | ⟨b, hb, hv, hs⟩ | ⟨b, hb, hv, hs⟩
  · exact Or.inl ⟨hb, remove_of_refused hs⟩
  · exact Or.inr (Or.inl ⟨b, hb, hv, remove_of_refused hs⟩)
  · exact Or.inr (Or.inr ⟨b, hb, hv, remove_of_ok hs⟩)

variable [JsonCodec (Aggregate σ ε)]

/-- A `put` is refused before the collection if there is no document of `a`, and in the collection
if the `check` fails. Otherwise the document is inserted. -/
theorem put_cases (r : DocumentRepository σ ε) (a : Aggregate σ ε)
    (check : DocumentCollection → Except RepositoryError Unit) :
    (∃ e, documentOf a = .error e ∧ r.put a check = (.error e, r)) ∨
    (∃ d e, documentOf a = .ok d ∧ check r.stored = .error e ∧
      r.put a check = (.error e, r.touched)) ∨
    ∃ d, documentOf a = .ok d ∧ check r.stored = .ok () ∧
      r.put a check = (.ok a, r.withStored (r.stored.insert a.id.render d)) := by
  unfold put
  cases hd : documentOf a with
  | error e => exact Or.inl ⟨e, rfl, rfl⟩
  | ok d =>
    cases hc : check r.stored with
    | error e =>
      refine Or.inr (Or.inl ⟨d, e, rfl, rfl, ?_⟩)
      have hwrite : r.store.write (AggregateKind.name σ)
          (fun c => (check c).map fun () => c.insert a.id.render d) =
          (.error e, r.store.touch (AggregateKind.name σ)) :=
        DocumentStore.write_of_error (by rw [← stored, hc]; rfl)
      simp only [hwrite]
      rfl
    | ok u =>
      refine Or.inr (Or.inr ⟨d, rfl, rfl, ?_⟩)
      have hwrite : r.store.write (AggregateKind.name σ)
          (fun c => (check c).map fun () => c.insert a.id.render d) =
          (.ok (), r.store.withCollection (AggregateKind.name σ)
            (r.stored.insert a.id.render d)) :=
        DocumentStore.write_of_ok (by rw [← stored, hc]; rfl)
      simp only [hwrite]
      rfl

theorem put_of_ok {r : DocumentRepository σ ε} {a : Aggregate σ ε} {d : StoredDocument}
    {check : DocumentCollection → Except RepositoryError Unit} (hd : documentOf a = .ok d)
    (hcheck : check r.stored = .ok ()) :
    r.put a check = (.ok a, r.withStored (r.stored.insert a.id.render d)) := by
  rcases put_cases r a check with ⟨e, he, -⟩ | ⟨d', e, -, he, -⟩ | ⟨d', hd', -, heq⟩
  · cases hd.symm.trans he
  · cases hcheck.symm.trans he
  · cases hd.symm.trans hd'
    exact heq

theorem put_of_refused {r : DocumentRepository σ ε} {a : Aggregate σ ε} {d : StoredDocument}
    {check : DocumentCollection → Except RepositoryError Unit} {e : RepositoryError}
    (hd : documentOf a = .ok d) (hcheck : check r.stored = .error e) :
    r.put a check = (.error e, r.touched) := by
  rcases put_cases r a check with ⟨e', he, -⟩ | ⟨d', e', -, he, heq⟩ | ⟨d', -, hok, -⟩
  · cases hd.symm.trans he
  · cases hcheck.symm.trans he
    exact heq
  · cases hcheck.symm.trans hok

/-- As `MemoryRepository.add_cases`, if the aggregate can be written as a document. -/
theorem add_cases (r : DocumentRepository σ ε) (a : Aggregate σ ε) :
    (∃ e, documentOf (a.atVersion 1) = .error e ∧ r.add a = (.error e, r)) ∨
    (∃ d b, documentOf (a.atVersion 1) = .ok d ∧ r.stored.find? a.id.render = some b ∧
      r.add a = (.error (AggregateKind.duplicate σ a.id), r.touched)) ∨
    ∃ d, documentOf (a.atVersion 1) = .ok d ∧ r.stored.find? a.id.render = none ∧
      r.add a = (.ok (a.atVersion 1), r.withStored (r.stored.insert a.id.render d)) := by
  unfold add
  rcases put_cases r (a.atVersion 1) (fun c => c.checkAbsent σ a.id) with
    ⟨e, hd, heq⟩ | ⟨d, e, hd, hc, heq⟩ | ⟨d, hd, hc, heq⟩
  · exact Or.inl ⟨e, hd, heq⟩
  · refine Or.inr (Or.inl ?_)
    cases hb : r.stored.find? a.id.render with
    | none => rw [DocumentCollection.checkAbsent_of_none hb] at hc; cases hc
    | some b =>
      rw [DocumentCollection.checkAbsent_of_some hb] at hc
      cases hc
      exact ⟨d, b, hd, rfl, heq⟩
  · refine Or.inr (Or.inr ⟨d, hd, ?_, heq⟩)
    cases hb : r.stored.find? a.id.render with
    | none => rfl
    | some b => rw [DocumentCollection.checkAbsent_of_some hb] at hc; cases hc

/-- As `MemoryRepository.update_cases`, if the aggregate can be written as a document. -/
theorem update_cases (r : DocumentRepository σ ε) (a : Aggregate σ ε) :
    (∃ e, documentOf (a.atVersion (a.version + 1)) = .error e ∧ r.update a = (.error e, r)) ∨
    (∃ d, documentOf (a.atVersion (a.version + 1)) = .ok d ∧
      r.stored.find? a.id.render = none ∧
      r.update a = (.error (AggregateKind.notFound σ a.id), r.touched)) ∨
    (∃ d b, documentOf (a.atVersion (a.version + 1)) = .ok d ∧
      r.stored.find? a.id.render = some b ∧ b.version ≠ a.version ∧
      r.update a =
        (.error (.concurrency (.staleVersion (.exact a.version) b.version)), r.touched)) ∨
    ∃ d b, documentOf (a.atVersion (a.version + 1)) = .ok d ∧
      r.stored.find? a.id.render = some b ∧ b.version = a.version ∧
      r.update a = (.ok (a.atVersion (a.version + 1)),
        r.withStored (r.stored.insert a.id.render d)) := by
  unfold update
  rcases put_cases r (a.atVersion (a.version + 1))
    (fun c => c.checkStored σ a.id (.exact a.version)) with
    ⟨e, hd, heq⟩ | ⟨d, e, hd, hc, heq⟩ | ⟨d, hd, hc, heq⟩
  · exact Or.inl ⟨e, hd, heq⟩
  · rcases DocumentCollection.checkStored_cases (σ := σ) r.stored a.id (.exact a.version) with
      ⟨hb, hs⟩ | ⟨b, hb, hv, hs⟩ | ⟨b, hb, hv, hs⟩
    · rw [hs] at hc
      cases hc
      exact Or.inr (Or.inl ⟨d, hd, hb, heq⟩)
    · rw [hs] at hc
      cases hc
      refine Or.inr (Or.inr (Or.inl ⟨d, b, hd, hb, ?_, heq⟩))
      rw [← Bool.not_eq_true, ExpectedVersion.accepts_exact] at hv
      exact hv
    · rw [hs] at hc
      cases hc
  · rcases DocumentCollection.checkStored_cases (σ := σ) r.stored a.id (.exact a.version) with
      ⟨hb, hs⟩ | ⟨b, hb, hv, hs⟩ | ⟨b, hb, hv, hs⟩
    · rw [hs] at hc
      cases hc
    · rw [hs] at hc
      cases hc
    · exact Or.inr (Or.inr (Or.inr ⟨d, b, hd, hb, ExpectedVersion.accepts_exact.mp hv, heq⟩))

end DocumentRepository

end Quarry
