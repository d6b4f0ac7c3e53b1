import Quarry.Proofs.Specification.Evaluation
import Quarry.Validation

/-!
# Validation and the conjunction of its rules

A validator tests its rules in their order. Unless a rule has no truth value it tests all of them and
reports those that do not hold; otherwise it stops at the first rule without a truth value
(`Validator.CollectsOrStops`).

The rules joined by "and" are tested in the same order, but not beyond the first one that does not
hold. Up to that rule the two go together, so an entity is valid just if the conjunction holds for it,
and a failure of the conjunction is what validation reports. Where the conjunction is false,
validation goes on, and whether it reports violations or a failure is up to the rules behind
(`Validator.goesWith_conjunction`).
-/

namespace Quarry

/-! ## Conjunctions -/

namespace Formula

variable {ι ε : Type}

/-- The formula joins the formulas of a list by `and`, in their order and bracketed in any way. The
empty conjunction is true. -/
inductive IsConjunction : Formula ι → List (Formula ι) → Prop where
  | none : IsConjunction (const true) []
  | single (f : Formula ι) : IsConjunction f [f]
  | and {a b : Formula ι} {fs gs : List (Formula ι)} (ha : IsConjunction a fs)
    (hb : IsConjunction b gs) : IsConjunction (a.and b) (fs ++ gs)

/-- The formulas of a list joined by `and` from left to right. -/
def conjunction : List (Formula ι) → Formula ι
  | [] => const true
  | f :: fs => fs.foldl and f

theorem IsConjunction.foldl {f : Formula ι} {fs gs : List (Formula ι)} (h : IsConjunction f fs) :
    IsConjunction (gs.foldl Formula.and f) (fs ++ gs) := by
  induction gs generalizing f fs with
  | nil => rwa [List.append_nil]
  | cons g gs ih =>
    rw [List.append_cons]
    exact ih (h.and (.single g))

theorem isConjunction_conjunction (fs : List (Formula ι)) : IsConjunction (conjunction fs) fs := by
  cases fs with
  | nil => exact .none
  | cons f fs => exact (IsConjunction.single f).foldl

/-- However a conjunction `f` is bracketed, its parts are evaluated one after the other until one is
not true. -/
theorem IsConjunction.eval_eq {f : Formula ι} {fs : List (Formula ι)} (h : IsConjunction f fs)
    (test : ι → Except ε Bool) : f.eval test = fs.allM fun g => g.eval test := by
  induction h with
  | none => rfl
  | single f =>
    rw [List.allM]
    rcases f.eval test with e | _ | _ <;> rfl
  | and _ _ iha ihb =>
    rw [eval, iha, ihb]
    exact (allM_append _ _ _).symm

end Formula

/-! ## Runs of a validator -/

/-- Whether the rule `r` holds for the entity. -/
def Rule.test {α : Type} [Record α] (entity : α) (r : Rule α) : Except EvaluationError Bool :=
  r.specification.isSatisfiedBy entity

/-- What is reported of the rule `r` if it does not hold. -/
def Rule.violation {α : Type} (r : Rule α) : Violation :=
  ⟨r.field, r.message⟩

namespace Validator

open Formula

variable {α : Type}

/-- Validation where the `test` of a rule may do more than tell whether the rule holds. -/
def violationsM {m : Type → Type} [Monad m] (test : Rule α → m Bool) :
    List (Rule α) → m (List Violation)
  | [] => pure []
  | r :: rs => do
    let holds ← test r
    let others ← violationsM test rs
    pure (if holds then others else r.violation :: others)

variable [Record α] {entity : α} {rules : List (Rule α)}

/-- The rules up to the first one that has no truth value. -/
def tested (entity : α) : List (Rule α) → List (Rule α)
  | [] => []
  | r :: rs =>
    match r.test entity with
    | .error _ => [r]
    | .ok _ => r :: tested entity rs

section Step

variable {r : Rule α} {b : Bool} {e : EvaluationError}

/-- A rule that has a truth value leaves the other rules to be tested. -/
theorem violationsOf_cons_of_ok (h : r.test entity = .ok b) (rs : List (Rule α)) :
    violationsOf entity (r :: rs) =
      (violationsOf entity rs).map fun others => if b then others else r.violation :: others := by
  rw [violationsOf, show r.specification.isSatisfiedBy entity = .ok b from h]
  cases b with
  | true => cases violationsOf entity rs <;> rfl
  | false => rfl

theorem violationsOf_cons_of_error (h : r.test entity = .error e) (rs : List (Rule α)) :
    violationsOf entity (r :: rs) = .error e := by
  rw [violationsOf, show r.specification.isSatisfiedBy entity = .error e from h]

theorem tested_cons_of_ok (h : r.test entity = .ok b) (rs : List (Rule α)) :
    tested entity (r :: rs) = r :: tested entity rs := by
  rw [tested, h]

theorem tested_cons_of_error (h : r.test entity = .error e) (rs : List (Rule α)) :
    tested entity (r :: rs) = [r] := by
  rw [tested, h]

end Step

/-- One run gives the violations and, in the `log`, the rules that were tested. -/
theorem run_violationsM_logged (entity : α) (rules log : List (Rule α)) :
    (violationsM (logged (Rule.test entity)) rules).run.run log =
      (violationsOf entity rules, log ++ tested entity rules) := by
  induction rules generalizing log with
  | nil => exact Prod.ext rfl (List.append_nil log).symm
  | cons r rs ih =>
    have hr : (logged (Rule.test entity) r).run.run log = (r.test entity, log ++ [r]) := rfl
    rw [violationsM]
    cases htest : r.test entity with
    | error e =>
      rw [htest] at hr
      rw [run_bind_of_error hr, violationsOf_cons_of_error htest, tested_cons_of_error htest]
    | ok b =>
      rw [htest] at hr
      have hrest := ih (log ++ [r])
      rw [List.append_assoc] at hrest
      rw [run_bind_of_ok hr, violationsOf_cons_of_ok htest, tested_cons_of_ok htest]
      cases hothers : violationsOf entity rs with
      | error e =>
        rw [hothers] at hrest
        rw [run_bind_of_error hrest]
        rfl
      | ok others =>
        rw [hothers] at hrest
        rw [run_bind_of_ok hrest]
        rfl

/-- The predicates that are called are those of the rules that are tested. -/
theorem callsOf_eq (entity : α) (rules : List (Rule α)) :
    callsOf entity rules = (tested entity rules).flatMap fun r => r.specification.calls entity := by
  induction rules with
  | nil => rfl
  | cons r rs ih =>
    rw [callsOf, ih]
    cases htest : r.test entity with
    | error e =>
      rw [tested_cons_of_error htest, show r.specification.isSatisfiedBy entity = .error e from htest]
      exact (List.flatMap_singleton ..).symm
    | ok b =>
      rw [tested_cons_of_ok htest, show r.specification.isSatisfiedBy entity = .ok b from htest]
      rfl

/-! ## All violations, or the first failure -/

/-- What is reported of the `rules` that do not hold, in their order. -/
def broken (entity : α) (rules : List (Rule α)) : List Violation :=
  (rules.filter fun r => !r.specification.accepts entity).map Rule.violation

theorem broken_cons {r : Rule α} {b : Bool} (h : r.test entity = .ok b) (rs : List (Rule α)) :
    broken entity (r :: rs) = if b then broken entity rs else r.violation :: broken entity rs := by
  have haccepts : r.specification.accepts entity = b := by
    rw [Specification.accepts, show r.specification.isSatisfiedBy entity = .ok b from h]
  rw [broken, List.filter_cons, haccepts]
  cases b <;> rfl

/-- If every rule has a truth value, all broken ones are reported. -/
theorem violationsOf_of_decided (h : ∀ r ∈ rules, ∃ b, r.test entity = .ok b) :
    violationsOf entity rules = .ok (broken entity rules) ∧ tested entity rules = rules := by
  induction rules with
  | nil => exact ⟨rfl, rfl⟩
  | cons r rs ih =>
    obtain ⟨⟨b, hb⟩, hrest⟩ := List.forall_mem_cons.mp h
    obtain ⟨hothers, htested⟩ := ih hrest
    rw [violationsOf_cons_of_ok hb, hothers, tested_cons_of_ok hb, htested, broken_cons hb]
    exact ⟨rfl, rfl⟩

/-- If a rule has no truth value, the first such one is reported, and nothing behind it is tested.
-/
theorem violationsOf_of_firstFault {before : List (Rule α)} {r : Rule α} {e : EvaluationError}
    (h : ∀ q ∈ before, ∃ b, q.test entity = .ok b) (hr : r.test entity = .error e)
    (after : List (Rule α)) :
    violationsOf entity (before ++ r :: after) = .error e ∧
      tested entity (before ++ r :: after) = before ++ [r] := by
  induction before with
  | nil => exact ⟨violationsOf_cons_of_error hr after, tested_cons_of_error hr after⟩
  | cons q before ih =>
    obtain ⟨⟨b, hb⟩, hrest⟩ := List.forall_mem_cons.mp h
    obtain ⟨hothers, htested⟩ := ih hrest
    rw [List.cons_append, violationsOf_cons_of_ok hb, hothers, tested_cons_of_ok hb, htested]
    exact ⟨rfl, rfl⟩

theorem violationsOf_append_of_met {before : List (Rule α)}
    (h : ∀ q ∈ before, q.test entity = .ok true) (rest : List (Rule α)) :
    violationsOf entity (before ++ rest) = violationsOf entity rest := by
  induction before with
  | nil => rfl
  | cons q before ih =>
    obtain ⟨hq, hrest⟩ := List.forall_mem_cons.mp h
    rw [List.cons_append, violationsOf_cons_of_ok hq, ih hrest]
    cases violationsOf entity rest <;> rfl

/-- Validation by `v` reports all violations, or stops at the first rule without a truth value. -/
inductive CollectsOrStops (v : Validator α) (entity : α) : Prop where
  | collects (decided : ∀ r ∈ v.rules, ∃ b, r.test entity = .ok b)
    (violations : v.violations entity = .ok (broken entity v.rules))
    (run : (violationsM (logged (Rule.test entity)) v.rules).run.run [] =
      (v.violations entity, v.rules))
    (calls : v.calls entity = v.rules.flatMap fun r => r.specification.calls entity)
  | stops {before after : List (Rule α)} {r : Rule α} {e : EvaluationError}
    (rules : v.rules = before ++ r :: after) (decided : ∀ q ∈ before, ∃ b, q.test entity = .ok b)
    (fails : r.test entity = .error e) (violations : v.violations entity = .error e)
    (run : (violationsM (logged (Rule.test entity)) v.rules).run.run [] =
      (v.violations entity, before ++ [r]))
    (calls : v.calls entity = (before ++ [r]).flatMap fun r => r.specification.calls entity)

theorem collectsOrStops (v : Validator α) (entity : α) : CollectsOrStops v entity := by
  have hrun := run_violationsM_logged entity v.rules []
  have hcalls : v.calls entity = _ := callsOf_eq entity v.rules
  rcases decided_or_firstFault (Rule.test entity) v.rules with
    hdecided | ⟨e, before, r, after, hrules, hdecided, hr⟩
  · obtain ⟨hviolations, htested⟩ := violationsOf_of_decided hdecided
    rw [htested] at hrun hcalls
    exact .collects hdecided hviolations hrun hcalls
  · obtain ⟨hviolations, htested⟩ := violationsOf_of_firstFault hdecided hr after
    rw [← hrules] at hviolations htested
    rw [htested] at hrun hcalls
    exact .stops hrules hdecided hr hviolations hrun hcalls

/-! ## Next to the conjunction -/

/-- What has to hold by the rules of `v`, in their order. -/
def specifications (v : Validator α) : List (Specification α) :=
  v.rules.map Rule.specification

/-- The answer of validation from what the rules came to. -/
def verdict : Except EvaluationError (List Violation) → Except ValidationError Unit
  | .error e => .error (.evaluation e)
  | .ok [] => .ok ()
  | .ok violations => .error (.invalid ⟨violations⟩)

theorem validate_eq (v : Validator α) (entity : α) :
    v.validate entity = verdict (violationsOf entity v.rules) := by
  rw [validate, violations]
  rcases violationsOf entity v.rules with e | _ | _ <;> rfl

/-- What validation by `v` comes to next to an outcome of the conjunction of its rules. Where that
is false, the first rule that does not hold is violated, and the rules behind it say what else. -/
inductive GoesWith (v : Validator α) (entity : α) : Except EvaluationError Bool → Prop where
  | holds (valid : v.validate entity = .ok ()) : GoesWith v entity (.ok true)
  | fails {e : EvaluationError} (failure : v.validate entity = .error (.evaluation e)) :
    GoesWith v entity (.error e)
  | isFalse {before after : List (Rule α)} {r : Rule α} (rules : v.rules = before ++ r :: after)
    (met : ∀ q ∈ before, q.test entity = .ok true) (first : r.test entity = .ok false)
    (rest : v.validate entity =
      match violationsOf entity after with
      | .ok others => .error (.invalid ⟨r.violation :: others⟩)
      | .error e => .error (.evaluation e)) : GoesWith v entity (.ok false)

/-- Validation goes with the conjunction of the rules, however it is bracketed. -/
theorem goesWith_conjunction {v : Validator α} {s : Specification α}
    (h : IsConjunction s v.specifications) (entity : α) :
    GoesWith v entity (s.isSatisfiedBy entity) := by
  have heval : s.isSatisfiedBy entity = v.rules.allM (Rule.test entity) := by
    refine (h.eval_eq (SpecificationLeaf.test entity)).trans ?_
    rw [specifications, allM_map]
    rfl
  rw [heval]
  rcases allM_cases (Rule.test entity) v.rules with
    ⟨hall, hmet⟩ | ⟨before, r, after, hrules, hmet, hr, hfirst⟩
  · rw [hall]
    have hnone := violationsOf_append_of_met hmet []
    rw [List.append_nil] at hnone
    exact .holds (by rw [validate_eq, hnone]; rfl)
  · have hrest : v.validate entity = verdict (violationsOf entity (r :: after)) := by
      rw [validate_eq, hrules, violationsOf_append_of_met hmet]
    rw [hfirst]
    rcases htest : r.test entity with e | _ | _
    case error =>
      rw [violationsOf_cons_of_error htest] at hrest
      exact .fails hrest
    case ok.true => exact absurd htest hr
    case ok.false =>
      refine .isFalse hrules hmet htest ?_
      rw [hrest, violationsOf_cons_of_ok htest]
      cases violationsOf entity after <;> rfl

/-- Validation succeeds just if the conjunction that it goes with is true. -/
theorem GoesWith.validate_eq_ok_iff {v : Validator α} {outcome : Except EvaluationError Bool}
    (h : GoesWith v entity outcome) : v.validate entity = .ok () ↔ outcome = .ok true := by
  cases h with
  | holds valid => exact iff_of_true valid rfl
  | fails failure =>
    rw [failure]
    exact iff_of_false nofun nofun
  | @isFalse before after r rules met first rest =>
    rw [rest]
    cases violationsOf entity after <;> exact iff_of_false nofun nofun

theorem GoesWith.validate_eq_error {v : Validator α} {e : EvaluationError}
    (h : GoesWith v entity (.error e)) : v.validate entity = .error (.evaluation e) := by
  cases h with
  | fails failure => exact failure

/-- Whatever the rules of `v` are and for whatever entity: validation reports all violations or
stops at the first failure. However the rules are joined by `and` in their order, an entity is valid
just if their conjunction `s` holds for it, and a failure of `s` is the failure of validation. Where
`s` is false, the first rule that does not hold and the rules behind it are what counts. -/
theorem validation_goesWithConjunction (v : Validator α) (entity : α) :
    CollectsOrStops v entity ∧ IsConjunction (conjunction v.specifications) v.specifications ∧
      ∀ s : Specification α, IsConjunction s v.specifications →
        GoesWith v entity (s.isSatisfiedBy entity) ∧
          (v.validate entity = .ok () ↔ s.isSatisfiedBy entity = .ok true) ∧
          ∀ e, s.isSatisfiedBy entity = .error e → v.validate entity = .error (.evaluation e) := by
  refine ⟨collectsOrStops v entity, isConjunction_conjunction _, fun s hs => ?_⟩
  have hgoes := goesWith_conjunction hs entity
  refine ⟨hgoes, hgoes.validate_eq_ok_iff, fun e he => ?_⟩
  rw [he] at hgoes
  exact hgoes.validate_eq_error

/-- A rule that does not hold before one that fails: the conjunction, bracketed to the right, is
false, and validation fails. -/
theorem validation_goesWithConjunction_false :
    let record : List (String × Value) := [("period", .int 1999), ("hours", .text "none")]
    let late : Specification (List (String × Value)) :=
      .leaf (.criterion (.binary .ge "period" (.int 2000)) rfl)
    let named : Specification (List (String × Value)) := .ofPredicate "named" fun _ => true
    let short : Specification (List (String × Value)) :=
      .leaf (.criterion (.binary .le "hours" (.int 24)) rfl)
    let v : Validator (List (String × Value)) :=
      ⟨[⟨"period", "too early", late⟩, ⟨"name", "missing", named⟩, ⟨"hours", "too many", short⟩]⟩
    let s : Specification (List (String × Value)) := late.and (named.and short)
    IsConjunction s v.specifications ∧ CollectsOrStops v record ∧
      GoesWith v record (s.isSatisfiedBy record) ∧ s.isSatisfiedBy record = .ok false ∧
      v.validate record =
        .error (.evaluation (.typeMismatch "hours" (.incomparable ⟨.text, .int⟩))) := by
  intro record late named short v s
  have hs : IsConjunction s v.specifications :=
    (IsConjunction.single late).and ((IsConjunction.single named).and (.single short))
  obtain ⟨hcollects, -, hconjunction⟩ := validation_goesWithConjunction v record
  exact ⟨hs, hcollects, (hconjunction s hs).1, rfl, rfl⟩

end Validator

end Quarry
