import Mathlib.Data.List.Forall2
import Quarry.Proofs.Repository.Writes

/-!
# What a repository of documents keeps

Whatever is done to a repository of documents, each document in it is the document of an aggregate
and lies under the text of that aggregate's identifier (`DocumentRepository.exists_keeps`). On the
other side an aggregate that can be stored is the only one in some repository, at each version from
one on: it has to be added and then to be updated often enough (`DocumentRepository.exists_alone`).
-/

namespace Quarry.DocumentRepository

variable {σ ε : Type} [AggregateKind σ] [JsonCodec (Aggregate σ ε)]

/-- Repositories to which writes lead, accepted and refused ones, from the `empty` repository.
Reading does not change a repository. -/
inductive Reachable : DocumentRepository σ ε → Prop where
  | empty : Reachable empty
  | add {r : DocumentRepository σ ε} (a : Aggregate σ ε) (h : Reachable r) : Reachable (r.add a).2
  | update {r : DocumentRepository σ ε} (a : Aggregate σ ε) (h : Reachable r) :
    Reachable (r.update a).2
  | remove {r : DocumentRepository σ ε} (id : EntityId) (expected : ExpectedVersion)
    (h : Reachable r) : Reachable (r.remove id expected).2

/-- The documents of `r` are those of the aggregates `as`, in this order. -/
def Keeps (r : DocumentRepository σ ε) (as : List (Aggregate σ ε)) : Prop :=
  List.Forall₂ (fun a d => documentOf a = .ok d) as r.documents

/-! ## What all documents have -/

section EachEntry

variable {P : String → StoredDocument → Prop} {r : DocumentRepository σ ε}

/-- Every document of `r` has the property `P` together with the text that it lies under. -/
def EachEntry (P : String → StoredDocument → Prop) (r : DocumentRepository σ ε) : Prop :=
  ∀ e ∈ r.stored.entries, P e.1 e.2

omit [JsonCodec (Aggregate σ ε)] in
theorem EachEntry.touched (h : r.EachEntry P) : r.touched.EachEntry P := by
  unfold EachEntry
  rw [stored_touched]
  exact h

omit [JsonCodec (Aggregate σ ε)] in
theorem EachEntry.insert (h : r.EachEntry P) {key : String} {d : StoredDocument} (hd : P key d) :
    (r.withStored (r.stored.insert key d)).EachEntry P := by
  unfold EachEntry
  rw [stored_withStored]
  intro e he
  rcases SortedEntries.mem_of_mem_insert he with rfl | he
  · exact hd
  · exact h e he

/-- A write of an aggregate `a` is a concern of its own document. -/
theorem EachEntry.put (h : r.EachEntry P) {a : Aggregate σ ε}
    {check : DocumentCollection → Except RepositoryError Unit}
    (ha : ∀ d, documentOf a = .ok d → P a.id.render d) : (r.put a check).2.EachEntry P := by
  rcases put_cases r a check with ⟨_, _, heq⟩ | ⟨_, _, _, _, heq⟩ | ⟨d, hd, _, heq⟩
  · rw [heq]
    exact h
  · rw [heq]
    exact h.touched
  · rw [heq]
    exact h.insert (ha d hd)

omit [JsonCodec (Aggregate σ ε)] in
/-- A removal takes a document away, so what `P` says of the others remains. -/
theorem EachEntry.remove (h : r.EachEntry P) (id : EntityId) (expected : ExpectedVersion) :
    (r.remove id expected).2.EachEntry P := by
  rcases remove_cases r id expected with ⟨_, heq⟩ | ⟨_, _, _, heq⟩ | ⟨_, _, _, heq⟩
  · rw [heq]
    exact h.touched
  · rw [heq]
    exact h.touched
  · rw [heq]
    unfold EachEntry
    rw [stored_withStored]
    intro e he
    exact h e (List.mem_of_mem_filter he)

end EachEntry

/-! ## Each document has an aggregate -/

/-- Every document of `r` is that of an aggregate with the identifier that it lies under. -/
def IsFiled (r : DocumentRepository σ ε) : Prop :=
  ∀ e ∈ r.stored.entries, ∃ a : Aggregate σ ε, e.1 = a.id.render ∧ documentOf a = .ok e.2

/-- A repository that writes lead to is filed, since each write files the document of its aggregate.
-/
theorem IsFiled.of_reachable {r : DocumentRepository σ ε} (h : Reachable r) : r.IsFiled := by
  have hfiled : r.EachEntry fun key d => ∃ a : Aggregate σ ε, key = a.id.render ∧
      documentOf a = .ok d := by
    induction h with
    | empty =>
      intro e he
      cases he
    | add a _ ih => exact ih.put fun d hd => ⟨a.atVersion 1, rfl, hd⟩
    | update a _ ih => exact ih.put fun d hd => ⟨a.atVersion (a.version + 1), rfl, hd⟩
    | remove id expected _ ih => exact ih.remove id expected
  exact hfiled

omit [AggregateKind σ] in
theorem exists_forall₂ {ds : List StoredDocument}
    (h : ∀ d ∈ ds, ∃ a : Aggregate σ ε, documentOf a = .ok d) :
    ∃ as : List (Aggregate σ ε), List.Forall₂ (fun a d => documentOf a = .ok d) as ds := by
  induction ds with
  | nil => exact ⟨[], .nil⟩
  | cons d rest ih =>
    obtain ⟨a, ha⟩ := h d List.mem_cons_self
    obtain ⟨as, has⟩ := ih fun d hd => h d (List.mem_cons_of_mem _ hd)
    exact ⟨a :: as, .cons ha has⟩

/-- A repository that writes lead to keeps some aggregates and nothing else. -/
theorem exists_keeps {r : DocumentRepository σ ε} (h : Reachable r) :
    ∃ as : List (Aggregate σ ε), r.Keeps as := by
  refine exists_forall₂ fun d hd => ?_
  obtain ⟨e, he, rfl⟩ := List.mem_map.mp hd
  obtain ⟨a, _, ha⟩ := IsFiled.of_reachable h e he
  exact ⟨a, ha⟩

/-! ## An aggregate of its own -/

omit [AggregateKind σ] in
theorem store_of_documentOf {a : Aggregate σ ε} {d : StoredDocument} (h : documentOf a = .ok d) :
    d.version = a.version ∧ JsonCodec.store a = .ok d.body := by
  unfold documentOf at h
  split at h
  · next body hbody =>
    cases h
    exact ⟨rfl, hbody⟩
  · cases h

/-- The document of `a` is the only one of `r`. -/
def IsAlone (r : DocumentRepository σ ε) (a : Aggregate σ ε) : Prop :=
  ∃ d, documentOf a = .ok d ∧ r.stored = SortedMap.empty.insert a.id.render d

theorem IsAlone.keeps {r : DocumentRepository σ ε} {a : Aggregate σ ε} (h : r.IsAlone a) :
    r.Keeps [a] := by
  obtain ⟨d, hd, hstored⟩ := h
  have hdocuments : r.documents = [d] := congrArg SortedMap.values hstored
  rw [Keeps, hdocuments]
  exact .cons hd .nil

/-- Added to the empty repository, an aggregate is alone with the version `1`. -/
theorem isAlone_add {a : Aggregate σ ε} {d : StoredDocument}
    (h : documentOf (a.atVersion 1) = .ok d) :
    (DocumentRepository.empty.add a).2.IsAlone (a.atVersion 1) := by
  rcases add_cases (DocumentRepository.empty : DocumentRepository σ ε) a with
    ⟨_, hd, _⟩ | ⟨_, _, _, hsome, _⟩ | ⟨d, hd, _, heq⟩
  · rw [hd] at h
    cases h
  · cases hsome
  · rw [heq]
    exact ⟨d, hd, stored_withStored _ _⟩

/-- An update of an aggregate that is alone leaves it alone with the next version. -/
theorem IsAlone.update {r : DocumentRepository σ ε} {a : Aggregate σ ε} (h : r.IsAlone a)
    {d : StoredDocument} (hd : documentOf (a.atVersion (a.version + 1)) = .ok d) :
    (r.update a).2.IsAlone (a.atVersion (a.version + 1)) := by
  obtain ⟨old, hold, hstored⟩ := h
  have hfind : r.stored.find? a.id.render = some old := by
    rw [hstored, SortedMap.find?_insert_self]
  rcases update_cases r a with
    ⟨_, he, _⟩ | ⟨_, _, hnone, _⟩ | ⟨_, b, _, hb, hversion, _⟩ | ⟨d, _, hd, _, _, heq⟩
  · rw [he] at hd
    cases hd
  · rw [hfind] at hnone
    cases hnone
  · rw [hfind] at hb
    cases hb
    exact absurd ((store_of_documentOf hold).1) hversion
  · rw [heq]
    refine ⟨d, hd, ?_⟩
    rw [stored_withStored, hstored]
    exact SortedMap.insert_insert_self _ _ _ _

/-- An aggregate `a` that can be stored is alone, with the version `n + 1`, in a repository that
writes lead to. -/
theorem exists_alone {a : Aggregate σ ε} (h : ∀ v, ∃ d, documentOf (a.atVersion v) = .ok d)
    (n : Nat) : ∃ r, Reachable r ∧ r.IsAlone (a.atVersion (UInt64.ofNat (n + 1))) := by
  induction n with
  | zero =>
    obtain ⟨d, hd⟩ := h 1
    exact ⟨_, .add a .empty, isAlone_add hd⟩
  | succ n ih =>
    obtain ⟨r, hr, halone⟩ := ih
    have hnext : UInt64.ofNat (n + 1) + 1 = UInt64.ofNat (n + 1 + 1) := by
      rw [UInt64.ofNat_add (n + 1) 1]
      rfl
    obtain ⟨d, hd⟩ := h (UInt64.ofNat (n + 1 + 1))
    rw [← hnext] at hd ⊢
    exact ⟨_, .update _ hr, halone.update hd⟩

end Quarry.DocumentRepository
