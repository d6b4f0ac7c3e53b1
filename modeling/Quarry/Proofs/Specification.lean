import Quarry.Proofs.Except
import Quarry.Specification

/-!
# Specifications and their filters

A specification without predicates and the filter that it is have the same truth value on every
entity (`Specification.isSatisfiedBy_of_toFilter?`). A predicate that always holds can be added to a
specification without a change of its meaning (`Specification.select_and_true`), but with the
predicate it is no filter.
-/

namespace Quarry

namespace Formula

variable {ι κ ε : Type}

/-- Replaces every leaf by what `g` makes of it. -/
def map (g : ι → κ) : Formula ι → Formula κ
  | const b => const b
  | leaf l => leaf (g l)
  | and a b => and (map g a) (map g b)
  | or a b => or (map g a) (map g b)
  | not a => not (map g a)

theorem map_congr {g h : ι → κ} {f : Formula ι} (hleaves : ∀ l ∈ f.leaves, g l = h l) :
    f.map g = f.map h := by
  induction f with
  | const b => rfl
  | leaf l => exact congrArg leaf (hleaves l (List.mem_singleton.mpr rfl))
  | and a b iha ihb | or a b iha ihb =>
    rw [map, map, iha fun l hl => hleaves l (List.mem_append_left _ hl),
      ihb fun l hl => hleaves l (List.mem_append_right _ hl)]
  | not a ih => rw [map, map, ih hleaves]

theorem map_id (f : Formula ι) : f.map id = f := by
  induction f with
  | const b => rfl
  | leaf l => rfl
  | and a b iha ihb => rw [map, iha, ihb]
  | or a b iha ihb => rw [map, iha, ihb]
  | not a ih => rw [map, ih]

/-- Tests that agree on the leaves of `f` give it the same value. -/
theorem eval_congr {test test' : ι → Except ε Bool} {f : Formula ι}
    (h : ∀ l ∈ f.leaves, test l = test' l) : f.eval test = f.eval test' := by
  induction f with
  | const b => rfl
  | leaf l => exact h l (List.mem_singleton.mpr rfl)
  | and a b iha ihb | or a b iha ihb =>
    rw [eval, eval, iha fun l hl => h l (List.mem_append_left _ hl),
      ihb fun l hl => h l (List.mem_append_right _ hl)]
  | not a ih =>
    rw [eval, eval, ih h]

/-- Formulas `f` and `g` that have the same value on every item select the same items. -/
theorem select_congr {κ α : Type} {test : α → ι → Except ε Bool} {test' : α → κ → Except ε Bool}
    {f : Formula ι} {g : Formula κ} (h : ∀ a, f.eval (test a) = g.eval (test' a)) (items : List α) :
    select test f items = select test' g items := by
  induction items with
  | nil => rfl
  | cons a rest ih => rw [select, select, h a, ih]

theorem select_true {α : Type} (test : α → ι → Except ε Bool) (items : List α) :
    select test (const true) items = .ok items := by
  induction items with
  | nil => rfl
  | cons a rest ih =>
    rw [select, ih]
    rfl

theorem sublist_of_select {α : Type} {test : α → ι → Except ε Bool} {f : Formula ι}
    {items found : List α} (h : f.select test items = .ok found) : found.Sublist items := by
  induction items generalizing found with
  | nil =>
    cases h
    exact .slnil
  | cons item rest ih =>
    rw [select] at h
    split at h
    · cases h
    · obtain ⟨others, hothers, rfl⟩ := map_eq_ok_iff.mp h
      exact (ih hothers).cons_cons item
    · exact (ih h).cons item

theorem mem_of_mem_select {α : Type} {test : α → ι → Except ε Bool} {f : Formula ι}
    {items found : List α} (h : f.select test items = .ok found) {a : α} (ha : a ∈ found) :
    a ∈ items :=
  (sublist_of_select h).subset ha

theorem count_eq_select {α : Type} (test : α → ι → Except ε Bool) (f : Formula ι) (items : List α) :
    f.count test items = (f.select test items).map List.length := by
  induction items with
  | nil => rfl
  | cons a rest ih =>
    rw [count, select, ih]
    cases f.eval (test a) with
    | error e => rfl
    | ok b =>
      cases b with
      | true => cases f.select test rest <;> rfl
      | false => rfl

/-- A formula `f` passes a check just if every leaf does, and otherwise the leftmost leaf that does
not is reported. -/
theorem settledByAll_check {good : ι → Prop} {fault : ι → ε → Prop} {check' : ι → Except ε Unit}
    (h : ∀ l, SettledBy (good l) (fault l) (check' l)) (f : Formula ι) :
    SettledByAll good fault f.leaves (f.check check') := by
  induction f with
  | const b => exact settledByAll_nil ()
  | leaf l => exact (h l).singleton
  | and a b iha ihb => exact iha.check_append ihb
  | or a b iha ihb => exact iha.check_append ihb
  | not a ih => exact ih

/-- A formula `g` can be made over by `f` just if each of its leaves can be replaced. -/
theorem mapM_eq_none_iff {κ : Type} {f : ι → Option κ} {g : Formula ι} :
    g.mapM f = none ↔ ∃ l ∈ g.leaves, f l = none := by
  induction g with
  | const b => simp [mapM, leaves]
  | leaf l => cases h : f l <;> simp [mapM, leaves, h]
  | and a b iha ihb | or a b iha ihb =>
    simp only [leaves, List.mem_append, or_and_right, exists_or, ← iha, ← ihb]
    cases ha : a.mapM f <;> cases hb : b.mapM f <;> simp [mapM, ha, hb]
  | not a ih =>
    rw [leaves, ← ih]
    cases ha : a.mapM f <;> simp [mapM, ha]

/-- What a formula has to do with the one that it is made over to follows from what the leaves have
to do with those that replace them. -/
theorem mapM_induction {κ : Type} {f : ι → Option κ} {motive : Formula ι → Formula κ → Prop}
    (const : ∀ b, motive (.const b) (.const b))
    (leaf : ∀ l k, f l = some k → motive (.leaf l) (.leaf k))
    (and : ∀ a b a' b', motive a a' → motive b b' → motive (a.and b) (a'.and b'))
    (or : ∀ a b a' b', motive a a' → motive b b' → motive (a.or b) (a'.or b'))
    (not : ∀ a a', motive a a' → motive a.not a'.not)
    {g : Formula ι} {g' : Formula κ} (h : g.mapM f = some g') : motive g g' := by
  induction g generalizing g' with
  | const b =>
    cases h
    exact const b
  | leaf l =>
    obtain ⟨k, hk, hg⟩ := Option.bind_eq_some_iff.mp h
    cases hg
    exact leaf l k hk
  | and a b iha ihb =>
    obtain ⟨a', ha, h⟩ := Option.bind_eq_some_iff.mp h
    obtain ⟨b', hb, hg⟩ := Option.bind_eq_some_iff.mp h
    cases hg
    exact and a b a' b' (iha ha) (ihb hb)
  | or a b iha ihb =>
    obtain ⟨a', ha, h⟩ := Option.bind_eq_some_iff.mp h
    obtain ⟨b', hb, hg⟩ := Option.bind_eq_some_iff.mp h
    cases hg
    exact or a b a' b' (iha ha) (ihb hb)
  | not a ih =>
    obtain ⟨a', ha, hg⟩ := Option.bind_eq_some_iff.mp h
    cases hg
    exact not a a' (ih ha)

end Formula

namespace Specification

variable {α : Type} [Record α]

/-- A specification `s` without predicates is its filter `f`. -/
theorem isSatisfiedBy_of_toFilter? {s : Specification α} {f : Filter} (h : s.toFilter? = some f)
    (entity : α) : s.isSatisfiedBy entity = f.evaluate entity := by
  refine Formula.mapM_induction (motive := fun s f =>
    isSatisfiedBy s entity = Filter.evaluate f entity) ?_ ?_ ?_ ?_ ?_ h
  · intro b
    rfl
  · intro l c hc
    cases l with
    | predicate name test => cases hc
    | criterion c' valid =>
      cases hc
      rfl
  · intro a b a' b' ha hb
    unfold isSatisfiedBy Filter.evaluate at *
    rw [Formula.eval, Formula.eval, ha, hb]
  · intro a b a' b' ha hb
    unfold isSatisfiedBy Filter.evaluate at *
    rw [Formula.eval, Formula.eval, ha, hb]
  · intro a a' ha
    unfold isSatisfiedBy Filter.evaluate at *
    rw [Formula.eval, Formula.eval, ha]

omit [Record α] in
/-- The filter of a specification is well formed, as its leaves are. -/
theorem validate_of_toFilter? {s : Specification α} {f : Filter} (h : s.toFilter? = some f) :
    f.validate = .ok () := by
  refine Formula.mapM_induction (motive := fun _ f => Filter.validate f = .ok ()) ?_ ?_ ?_ ?_ ?_ h
  · intro b
    rfl
  · intro l c hc
    cases l with
    | predicate name test => cases hc
    | criterion c' valid =>
      cases hc
      exact valid
  · intro a b a' b' ha hb
    unfold Filter.validate at *
    rw [Formula.check, ha]
    exact hb
  · intro a b a' b' ha hb
    unfold Filter.validate at *
    rw [Formula.check, ha]
    exact hb
  · intro a a' ha
    exact ha

omit [Record α] in
/-- The filter of a specification shows as the text that the specification shows as. -/
theorem render_of_toFilter? {s : Specification α} {f : Filter} (h : s.toFilter? = some f) :
    Filter.render f = s.render := by
  refine Formula.mapM_induction (motive := fun s f => Filter.render f = render s) ?_ ?_ ?_ ?_ ?_ h
  · intro b
    cases b <;> rfl
  · intro l c hc
    cases l with
    | predicate name test => cases hc
    | criterion c' valid =>
      cases hc
      rfl
  · intro a b a' b' ha hb
    unfold Filter.render render at *
    rw [Formula.render, Formula.render, ha, hb]
  · intro a b a' b' ha hb
    unfold Filter.render render at *
    rw [Formula.render, Formula.render, ha, hb]
  · intro a a' ha
    unfold Filter.render render at *
    rw [Formula.render, Formula.render, ha]

/-! ## Selecting -/

/-- Whether `s` can be tested on the entity and holds. -/
def accepts (s : Specification α) (entity : α) : Bool :=
  match s.isSatisfiedBy entity with
  | .ok b => b
  | .error _ => false

/-- If some entity cannot be tested, the first such failure is reported. -/
theorem select_of_firstError {s : Specification α} {entities : List α} {e : EvaluationError}
    (h : firstError? s.isSatisfiedBy entities = some e) : s.select entities = .error e := by
  induction entities with
  | nil => cases h
  | cons a rest ih =>
    unfold select
    rw [Formula.select]
    cases htest : s.isSatisfiedBy a with
    | error e' =>
      rw [firstError?_cons_of_error htest] at h
      cases h
      rw [isSatisfiedBy] at htest
      rw [htest]
    | ok b =>
      rw [firstError?_cons_of_ok htest] at h
      have hrest := ih h
      unfold select at hrest
      rw [isSatisfiedBy] at htest
      rw [htest, hrest]
      cases b <;> rfl

/-- If each entity can be tested, those that `s` accepts are selected. -/
theorem select_of_no_error {s : Specification α} {entities : List α}
    (h : firstError? s.isSatisfiedBy entities = Option.none) :
    s.select entities = .ok (entities.filter s.accepts) := by
  induction entities with
  | nil => rfl
  | cons a rest ih =>
    unfold select
    rw [Formula.select]
    cases htest : s.isSatisfiedBy a with
    | error e' =>
      rw [firstError?_cons_of_error htest] at h
      cases h
    | ok b =>
      rw [firstError?_cons_of_ok htest] at h
      have hrest := ih h
      have haccepts : s.accepts a = b := by
        rw [accepts, htest]
      unfold select at hrest
      rw [isSatisfiedBy] at htest
      rw [htest, hrest, List.filter_cons, haccepts]
      cases b <;> rfl

/-- A search succeeds just if `s` can be tested on each entity. -/
theorem exists_select_iff {s : Specification α} {entities : List α} :
    (∃ found, s.select entities = .ok found) ↔ ∀ a ∈ entities, ∃ b, s.isSatisfiedBy a = .ok b := by
  rw [← firstError?_eq_none_iff]
  constructor
  · rintro ⟨found, hfound⟩
    cases h : firstError? s.isSatisfiedBy entities with
    | none => rfl
    | some e => cases (select_of_firstError h).symm.trans hfound
  · intro h
    exact ⟨_, select_of_no_error h⟩

/-! ## Filters as specifications -/

omit [Record α] in
/-- A leaf is made of each well-formed criterion `c`, and `c` is got back from it. -/
theorem map_criterion?_ofCriterion (c : Criterion) :
    (SpecificationLeaf.ofCriterion c : Except ArgumentError (SpecificationLeaf α)).map
        SpecificationLeaf.criterion? = c.validate.map fun _ => some c := by
  unfold SpecificationLeaf.ofCriterion
  apply map_eq_map_const_iff.mpr
  split
  · rename_i h
    exact Or.inl ⟨_, rfl, rfl, h⟩
  · rename_i e h
    exact Or.inr ⟨e, rfl, h⟩

omit [Record α] in
/-- A specification is made of each filter `f` whose criteria are well formed, and `f` is got back
from it. Otherwise `f.validate` says what is wrong. -/
theorem map_toFilter?_ofFilter (f : Filter) :
    (ofFilter f : Except ArgumentError (Specification α)).map toFilter? =
      f.validate.map fun _ => some f := by
  unfold ofFilter toFilter? Filter.validate
  induction f with
  | const b => rfl
  | leaf c =>
    rcases map_eq_map_const_iff.mp (map_criterion?_ofCriterion (α := α) c) with
      ⟨l, hl, hcriterion, hvalid⟩ | ⟨e, hl, hinvalid⟩
    · rw [Formula.mapM, Formula.check, hl, hvalid]
      show Except.ok (do pure (Formula.leaf (← l.criterion?))) = _
      rw [hcriterion]
      rfl
    · rw [Formula.mapM, Formula.check, hl, hinvalid]
      rfl
  | and a b iha ihb =>
    rw [Formula.mapM, Formula.check]
    rcases map_eq_map_const_iff.mp iha with ⟨a', ha, hfa, hva⟩ | ⟨e, ha, hva⟩
    · rw [ha, hva]
      rcases map_eq_map_const_iff.mp ihb with ⟨b', hb, hfb, hvb⟩ | ⟨e, hb, hvb⟩
      · rw [hb, hvb]
        show Except.ok (Formula.mapM _ (a'.and b')) = _
        rw [Formula.mapM, hfa, hfb]
        rfl
      · rw [hb, hvb]
        rfl
    · rw [ha, hva]
      rfl
  | or a b iha ihb =>
    rw [Formula.mapM, Formula.check]
    rcases map_eq_map_const_iff.mp iha with ⟨a', ha, hfa, hva⟩ | ⟨e, ha, hva⟩
    · rw [ha, hva]
      rcases map_eq_map_const_iff.mp ihb with ⟨b', hb, hfb, hvb⟩ | ⟨e, hb, hvb⟩
      · rw [hb, hvb]
        show Except.ok (Formula.mapM _ (a'.or b')) = _
        rw [Formula.mapM, hfa, hfb]
        rfl
      · rw [hb, hvb]
        rfl
    · rw [ha, hva]
      rfl
  | not a ih =>
    rw [Formula.mapM, Formula.check]
    rcases map_eq_map_const_iff.mp ih with ⟨a', ha, hfa, hva⟩ | ⟨e, ha, hva⟩
    · rw [ha, hva]
      show Except.ok (Formula.mapM _ a'.not) = _
      rw [Formula.mapM, hfa]
      rfl
    · rw [ha, hva]
      rfl

omit [Record α] in
theorem exists_ofFilter_iff {f : Filter} :
    (∃ s : Specification α, ofFilter f = .ok s) ↔ f.validate = .ok () := by
  have hfilter := map_toFilter?_ofFilter (α := α) f
  rcases map_eq_map_const_iff.mp hfilter with ⟨s, hs, -, hvalid⟩ | ⟨e, hs, hinvalid⟩
  · exact iff_of_true ⟨s, hs⟩ hvalid
  · rw [hs, hinvalid]
    exact iff_of_false nofun nofun

omit [Record α] in
/-- No specification is made of a filter `f` that is not well formed. -/
theorem ofFilter_of_not_validate {f : Filter} {e : ArgumentError} (h : f.validate = .error e) :
    (ofFilter f : Except ArgumentError (Specification α)) = .error e := by
  have hfilter := map_toFilter?_ofFilter (α := α) f
  rcases map_eq_map_const_iff.mp hfilter with ⟨s, -, -, hvalid⟩ | ⟨e', hs, hinvalid⟩
  · rw [h] at hvalid
    cases hvalid
  · rw [h] at hinvalid
    cases hinvalid
    exact hs

/-! ## Predicates -/

/-- Some leaf of `s` is a predicate. -/
def HasPredicate {α : Type} (s : Specification α) : Prop :=
  ∃ name test, SpecificationLeaf.predicate name test ∈ s.leaves

omit [Record α] in
/-- A specification `s` is a filter just if no leaf is a predicate. -/
theorem toFilter?_eq_none_iff {s : Specification α} :
    s.toFilter? = Option.none ↔ s.HasPredicate := by
  unfold toFilter? HasPredicate
  rw [Formula.mapM_eq_none_iff]
  constructor
  · rintro ⟨l, hl, hnone⟩
    cases l with
    | predicate name test => exact ⟨name, test, hl⟩
    | criterion c valid => cases hnone
  · rintro ⟨name, test, hl⟩
    exact ⟨_, hl, rfl⟩

omit [Record α] in
theorem HasPredicate.toFilter? {s : Specification α} (h : s.HasPredicate) :
    s.toFilter? = Option.none :=
  toFilter?_eq_none_iff.mpr h

theorem isSatisfiedBy_and_true (s : Specification α) (name : String) (entity : α) :
    isSatisfiedBy (s.and (ofPredicate name fun _ => true)) entity = s.isSatisfiedBy entity := by
  unfold isSatisfiedBy
  rw [Formula.eval]
  split
  · rename_i h
    rw [h]
    rfl
  · rfl

/-- A predicate that always holds changes nothing about what `s` selects. -/
theorem select_and_true (s : Specification α) (name : String) (entities : List α) :
    select (s.and (ofPredicate name fun _ => true)) entities = s.select entities :=
  Formula.select_congr (isSatisfiedBy_and_true s name) entities

omit [Record α] in
/-- With a predicate `p` a specification is no filter. -/
theorem toFilter?_and_predicate (s : Specification α) (name : String) (p : α → Bool) :
    toFilter? (s.and (ofPredicate name p)) = Option.none := by
  show (s.toFilter?.bind fun _ => Option.none) = Option.none
  cases s.toFilter? <;> rfl

end Specification

end Quarry
