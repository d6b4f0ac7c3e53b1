import Quarry.Proofs.Specification

/-!
# How specifications are built

A specification is put together from constants, predicates of the program, criteria and filters. A
filter can be made of it just if no predicate went into it, and then the filter stands for the
specification in every respect (`Construction.toFilter?_of_build`).
-/

namespace Quarry

/-- The ways to build a specification. -/
inductive Construction (α : Type) where
  | all
  | none
  | ofPredicate (name : String) (p : α → Bool)
  | ofTest (name : String) (test : α → Except EvaluationError Bool)
  | ofCriterion (c : Criterion)
  | ofFilter (f : Filter)
  | and (a b : Construction α)
  | or (a b : Construction α)
  | not (a : Construction α)
  | andNot (a b : Construction α)

namespace Specification

variable {α : Type} {s t : Specification α}

theorem hasPredicate_and : HasPredicate (s.and t) ↔ s.HasPredicate ∨ t.HasPredicate := by
  simp only [HasPredicate, Formula.leaves, List.mem_append, exists_or]

theorem hasPredicate_or : HasPredicate (s.or t) ↔ s.HasPredicate ∨ t.HasPredicate := by
  simp only [HasPredicate, Formula.leaves, List.mem_append, exists_or]

theorem hasPredicate_not : HasPredicate s.not ↔ s.HasPredicate :=
  Iff.rfl

theorem hasPredicate_ofTest (name : String) (test : α → Except EvaluationError Bool) :
    (ofTest name test).HasPredicate :=
  ⟨name, test, List.mem_singleton_self _⟩

/-- A specification made of a filter `f` gives it back. -/
theorem toFilter?_of_ofFilter {f : Filter} (h : ofFilter f = .ok s) : s.toFilter? = some f := by
  have hfilter := map_toFilter?_ofFilter (α := α) f
  rcases map_eq_map_const_iff.mp hfilter with ⟨s', hs, hback, -⟩ | ⟨e, hs, -⟩
  · rw [h] at hs
    cases hs
    exact hback
  · rw [h] at hs
    cases hs

theorem not_hasPredicate_of_ofFilter {f : Filter} (h : ofFilter f = .ok s) :
    ¬ s.HasPredicate := by
  intro hpredicate
  have hnone := hpredicate.toFilter?
  rw [toFilter?_of_ofFilter h] at hnone
  cases hnone

/-- A specification of a criterion is that of a filter with this one leaf. -/
theorem ofCriterion_eq_ofFilter (c : Criterion) :
    (ofCriterion c : Except ArgumentError (Specification α)) = ofFilter (.leaf c) := by
  unfold ofCriterion ofFilter
  rw [Formula.mapM]
  cases SpecificationLeaf.ofCriterion c <;> rfl

end Specification

namespace Construction

variable {α : Type}

/-- The specification that is built, unless a criterion in it is not well formed. -/
def build : Construction α → Except ArgumentError (Specification α)
  | all => .ok .all
  | none => .ok .none
  | ofPredicate name p => .ok (.ofPredicate name p)
  | ofTest name test => .ok (.ofTest name test)
  | ofCriterion c => Specification.ofCriterion c
  | ofFilter f => Specification.ofFilter f
  | and a b => do .ok (.and (← a.build) (← b.build))
  | or a b => do .ok (.or (← a.build) (← b.build))
  | not a => a.build.map .not
  | andNot a b => do .ok (.andNot (← a.build) (← b.build))

/-- A predicate of the program goes into the specification. -/
def HasPredicate : Construction α → Prop
  | ofPredicate _ _ | ofTest _ _ => True
  | all | none | ofCriterion _ | ofFilter _ => False
  | and a b | or a b | andNot a b => a.HasPredicate ∨ b.HasPredicate
  | not a => a.HasPredicate

/-- What is built has a predicate just if one went into it. -/
theorem hasPredicate_of_build {c : Construction α} {s : Specification α} (h : c.build = .ok s) :
    s.HasPredicate ↔ c.HasPredicate := by
  induction c generalizing s with
  | all | none =>
    cases h
    exact iff_of_false (fun ⟨_, _, hl⟩ => nomatch hl) id
  | ofPredicate name p | ofTest name test =>
    cases h
    exact iff_of_true (Specification.hasPredicate_ofTest _ _) trivial
  | ofCriterion c =>
    rw [build, Specification.ofCriterion_eq_ofFilter] at h
    exact iff_of_false (Specification.not_hasPredicate_of_ofFilter h) id
  | ofFilter f => exact iff_of_false (Specification.not_hasPredicate_of_ofFilter h) id
  | and a b iha ihb =>
    obtain ⟨sa, ha, h⟩ := bind_eq_ok_iff.mp h
    obtain ⟨sb, hb, h⟩ := bind_eq_ok_iff.mp h
    cases h
    rw [Specification.hasPredicate_and, iha ha, ihb hb, HasPredicate]
  | or a b iha ihb =>
    obtain ⟨sa, ha, h⟩ := bind_eq_ok_iff.mp h
    obtain ⟨sb, hb, h⟩ := bind_eq_ok_iff.mp h
    cases h
    rw [Specification.hasPredicate_or, iha ha, ihb hb, HasPredicate]
  | not a ih =>
    obtain ⟨sa, ha, rfl⟩ := map_eq_ok_iff.mp h
    rw [Specification.hasPredicate_not, ih ha, HasPredicate]
  | andNot a b iha ihb =>
    obtain ⟨sa, ha, h⟩ := bind_eq_ok_iff.mp h
    obtain ⟨sb, hb, h⟩ := bind_eq_ok_iff.mp h
    cases h
    rw [Specification.andNot, Specification.hasPredicate_and, Specification.hasPredicate_not,
      iha ha, ihb hb, HasPredicate]

/-- There is a filter for what `c` builds just if no predicate went into it. The filter is well
formed, has the same outcome on every entity, and shows as the same text. -/
theorem toFilter?_of_build [Record α] {c : Construction α} {s : Specification α}
    (h : c.build = .ok s) :
    (s.toFilter? = Option.none ↔ c.HasPredicate) ∧
      (¬ c.HasPredicate → ∃ f, s.toFilter? = some f ∧ f.validate = .ok () ∧
        (∀ entity, f.evaluate entity = s.isSatisfiedBy entity) ∧ f.render = s.render) := by
  have hnone : s.toFilter? = Option.none ↔ c.HasPredicate :=
    Specification.toFilter?_eq_none_iff.trans (hasPredicate_of_build h)
  refine ⟨hnone, ?_⟩
  intro hpredicate
  obtain ⟨f, hf⟩ := Option.ne_none_iff_exists'.mp (mt hnone.mp hpredicate)
  refine ⟨f, hf, Specification.validate_of_toFilter? hf, ?_, Specification.render_of_toFilter? hf⟩
  intro entity
  exact (Specification.isSatisfiedBy_of_toFilter? hf entity).symm

/-- Criteria alone, and the same next to a predicate. -/
theorem toFilter?_of_build_criteria :
    let c : Construction (List (String × Value)) :=
      .andNot (.and (.ofCriterion (.binary .ge "age" (.int 18))) .all)
        (.ofFilter (.or (.leaf (.among "name" [.text "Ada", .null])) (.const false)))
    let s : Specification (List (String × Value)) :=
      .and (.and (.leaf (.criterion (.binary .ge "age" (.int 18)) rfl)) (.const true))
        (.not (.or (.leaf (.criterion (.among "name" [.text "Ada", .null]) rfl)) (.const false)))
    let odd : Specification (List (String × Value)) := .ofPredicate "odd" fun _ => true
    (c.build = .ok s ∧ (c.or (.ofPredicate "odd" fun _ => true)).build = .ok (.or s odd)) ∧
      (∃ f, s.toFilter? = some f ∧ f.validate = .ok () ∧
        (∀ entity, f.evaluate entity = s.isSatisfiedBy entity) ∧ f.render = s.render) ∧
      Specification.toFilter? (.or s odd) = Option.none := by
  intro c s odd
  have hc : c.build = .ok s := rfl
  have hor : (c.or (.ofPredicate "odd" fun _ => true)).build = .ok (.or s odd) := rfl
  refine ⟨⟨hc, hor⟩, (toFilter?_of_build hc).2 ?_, (toFilter?_of_build hor).1.mpr ?_⟩
  · rintro ((h | h) | h) <;> exact h
  · exact Or.inr trivial

end Construction

end Quarry
