import Quarry.Proofs.Repository.Keeping
import Quarry.Proofs.Specification

/-!
# Strategies of a repository of documents

A specification without predicates is tested on documents, any other one on aggregates that are read
first. Where a filter has the value on each document that the specification has on the aggregate,
both ways give the same answers (`DocumentRepository.answersAlike_of_agrees`).
-/

namespace Quarry.DocumentRepository

/-! ## Reading documents -/

section Reading

variable {σ ε : Type} [JsonCodec (Aggregate σ ε)]

/-- A document that cannot be read is reported as an error of serialization. -/
theorem serialization_of_read {d : StoredDocument} {e : RepositoryError}
    (h : (read d : Except _ (Aggregate σ ε)) = .error e) : ∃ cause, e = .serialization cause := by
  unfold DocumentRepository.read at h
  split at h
  · cases h
  · cases h
    exact ⟨_, rfl⟩

/-- All documents `ds` can be read, or it is said that one of them cannot. -/
theorem readAll_cases (ds : List StoredDocument) :
    (∃ as : List (Aggregate σ ε), readAll ds = .ok as ∧ ∀ d ∈ ds, ∃ a ∈ as, read d = .ok a) ∨
    ∃ d ∈ ds, ∃ cause, (read d : Except _ (Aggregate σ ε)) = .error (.serialization cause) ∧
      (readAll ds : Except _ (List (Aggregate σ ε))) = .error (.serialization cause) := by
  induction ds with
  | nil => exact Or.inl ⟨[], rfl, nofun⟩
  | cons d rest ih =>
    rw [readAll]
    cases hread : (DocumentRepository.read d : Except _ (Aggregate σ ε)) with
    | error e =>
      obtain ⟨cause, rfl⟩ := serialization_of_read hread
      exact Or.inr ⟨d, List.mem_cons_self, cause, hread, rfl⟩
    | ok a =>
      rcases ih with ⟨as, has, hmem⟩ | ⟨d', hd', cause, hd'read, hcause⟩
      · rw [has]
        refine Or.inl ⟨a :: as, rfl, ?_⟩
        intro d' hd'
        rcases List.mem_cons.mp hd' with rfl | hd'
        · exact ⟨a, List.mem_cons_self, hread⟩
        · obtain ⟨b, hb, hb'⟩ := hmem d' hd'
          exact ⟨b, List.mem_cons_of_mem _ hb, hb'⟩
      · rw [hcause]
        exact Or.inr ⟨d', List.mem_cons_of_mem _ hd', cause, hd'read, rfl⟩

theorem exists_readAll_iff {ds : List StoredDocument} :
    (∃ as : List (Aggregate σ ε), readAll ds = .ok as) ↔
      ∀ d ∈ ds, ∃ a : Aggregate σ ε, read d = .ok a := by
  rcases readAll_cases (σ := σ) (ε := ε) ds with ⟨as, hall, hmem⟩ | ⟨d, hd, cause, hread, hall⟩
  · refine iff_of_true ⟨as, hall⟩ ?_
    intro d hd
    obtain ⟨a, -, ha⟩ := hmem d hd
    exact ⟨a, ha⟩
  · refine iff_of_false ?_ ?_
    · rintro ⟨as, has⟩
      cases hall.symm.trans has
    · intro h
      obtain ⟨a, ha⟩ := h d hd
      cases hread.symm.trans ha

/-- The documents `ds` are read as the aggregates `as` if each of them is. -/
theorem readAll_of_forall₂ {as : List (Aggregate σ ε)} {ds : List StoredDocument}
    (h : List.Forall₂ (fun a d => DocumentRepository.read d = .ok a) as ds) :
    readAll ds = .ok as := by
  induction h with
  | nil => rfl
  | cons ha _ ih =>
    rw [readAll, ha, ih]
    rfl

theorem length_of_readAll {ds : List StoredDocument} {as : List (Aggregate σ ε)}
    (h : readAll ds = .ok as) : as.length = ds.length := by
  induction ds generalizing as with
  | nil =>
    cases h
    rfl
  | cons d rest ih =>
    rw [readAll] at h
    cases hread : (DocumentRepository.read d : Except _ (Aggregate σ ε)) with
    | error e =>
      rw [hread] at h
      cases h
    | ok a =>
      rw [hread] at h
      obtain ⟨as', has', rfl⟩ := map_eq_ok_iff.mp h
      simp [ih has']

end Reading

/-! ## Two strategies -/

variable {σ ε : Type} [AggregateKind σ] [JsonCodec (Aggregate σ ε)] [Record (Aggregate σ ε)]

/-- The repository `r` gives the same answers to `s` and `t`: it finds the same aggregates in the
same order, or fails in the same way, and it counts alike. -/
structure AnswersAlike (r : DocumentRepository σ ε) (s t : Specification (Aggregate σ ε)) :
    Prop where
  find : r.find s = r.find t
  count : r.count s = r.count t
  holdsAny : Repository.holdsAny r s = Repository.holdsAny r t

/-- From the answers to specifications whose criteria are in the `vocabulary` it cannot be seen that
they are tested on documents: the answers stay the same with a predicate that always holds. -/
def StrategyIsInvisible (r : DocumentRepository σ ε) (vocabulary : Criterion → Prop) : Prop :=
  ∀ (s : Specification (Aggregate σ ε)) (f : Filter), s.toFilter? = some f →
    (∀ k ∈ f.leaves, vocabulary k) →
      ∀ name, r.AnswersAlike s (s.and (Specification.ofPredicate name fun _ => true))

/-- The document `d` is read as `a`, and `f` has the value on `d` that `s` has on `a`. -/
structure Agrees (f : Filter) (s : Specification (Aggregate σ ε)) (a : Aggregate σ ε)
    (d : StoredDocument) : Prop where
  read : read d = .ok a
  evaluate : f.evaluate d = s.isSatisfiedBy a

variable {f : Filter} {s : Specification (Aggregate σ ε)} {as : List (Aggregate σ ε)}
  {ds : List StoredDocument}

omit [AggregateKind σ] in
theorem readAll_of_agrees (h : List.Forall₂ (Agrees f s) as ds) : readAll ds = .ok as :=
  readAll_of_forall₂ (h.imp fun _ _ => Agrees.read)

omit [AggregateKind σ] in
/-- The documents that pass `f` are those of the aggregates that satisfy `s`. -/
theorem select_of_agrees (h : List.Forall₂ (Agrees f s) as ds) :
    (∃ e, f.select ds = .error e ∧ s.select as = .error e) ∨
    ∃ ds' as', f.select ds = .ok ds' ∧ s.select as = .ok as' ∧
      List.Forall₂ (Agrees f s) as' ds' := by
  unfold Filter.select Specification.select
  induction h with
  | nil => exact Or.inr ⟨[], [], rfl, rfl, .nil⟩
  | @cons a d as ds ha _ ih =>
    have hd : f.eval (Criterion.evaluate · d) = s.isSatisfiedBy a := ha.evaluate
    have hs : s.eval (SpecificationLeaf.test a) = s.isSatisfiedBy a := rfl
    rw [Formula.select, Formula.select, hd, hs]
    cases s.isSatisfiedBy a with
    | error e => exact Or.inl ⟨e, rfl, rfl⟩
    | ok b =>
      rcases ih with ⟨e, hds, has⟩ | ⟨ds', as', hds, has, hall⟩
      · refine Or.inl ⟨e, ?_⟩
        cases b with
        | true => exact ⟨congrArg (Except.map _) hds, congrArg (Except.map _) has⟩
        | false => exact ⟨hds, has⟩
      · refine Or.inr ?_
        cases b with
        | true =>
          exact ⟨d :: ds', a :: as', congrArg (Except.map _) hds, congrArg (Except.map _) has,
            .cons ha hall⟩
        | false => exact ⟨ds', as', hds, has, hall⟩

variable {r : DocumentRepository σ ε}

/-- A specification that is a filter is tested on documents, and those that pass are read. -/
theorem find_of_filter (hf : s.toFilter? = some f) :
    r.find s = match f.select r.documents with
      | .ok documents => readAll documents
      | .error e => .error (.evaluation e) := by
  unfold find
  split
  · next g hg =>
    cases hf.symm.trans hg
    rfl
  · next hg => cases hf.symm.trans hg

/-- A specification that is no filter is tested on the aggregates that are read. -/
theorem find_of_not_filter (hf : s.toFilter? = none) (has : readAll r.documents = .ok as) :
    r.find s = (s.select as).mapError .evaluation := by
  unfold find
  rw [hf, has]

theorem count_of_filter (hf : s.toFilter? = some f) :
    r.count s = ((f.select r.documents).map List.length).mapError .evaluation := by
  unfold count
  rw [hf]
  exact congrArg (Except.mapError _) (Formula.count_eq_select _ _ _)

theorem count_of_not_filter (hf : s.toFilter? = none) : r.count s = (r.find s).map List.length := by
  unfold count
  rw [hf]

/-- It makes no difference whether the documents are filtered or the aggregates that are read from
them, if `f` agrees with `s` on each. -/
theorem answersAlike_of_agrees (hf : s.toFilter? = some f)
    (h : List.Forall₂ (Agrees f s) as r.documents) (name : String) :
    r.AnswersAlike s (s.and (Specification.ofPredicate name fun _ => true)) := by
  have hand := Specification.toFilter?_and_predicate s name fun _ => true
  have hread := readAll_of_agrees h
  have hfind : r.find s = r.find (s.and (Specification.ofPredicate name fun _ => true)) := by
    rw [find_of_filter hf, find_of_not_filter hand hread, Specification.select_and_true]
    rcases select_of_agrees h with ⟨e, hds, has⟩ | ⟨ds', as', hds, has, hall⟩
    · rw [hds, has]
      rfl
    · rw [hds, has]
      exact readAll_of_agrees hall
  have hcount : r.count s = r.count (s.and (Specification.ofPredicate name fun _ => true)) := by
    rw [count_of_filter hf, count_of_not_filter hand, find_of_not_filter hand hread,
      Specification.select_and_true]
    rcases select_of_agrees h with ⟨e, hds, has⟩ | ⟨ds', as', hds, has, hall⟩
    · rw [hds, has]
      rfl
    · rw [hds, has]
      exact congrArg Except.ok hall.length_eq.symm
  exact ⟨hfind, hcount, congrArg (Except.map _) hcount⟩

end Quarry.DocumentRepository
