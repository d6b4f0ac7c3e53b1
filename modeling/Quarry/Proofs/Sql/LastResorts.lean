import Quarry.Proofs.Criterion.LastResorts
import Quarry.Proofs.Sql.Acceptance

/-!
# Translating without last resorts

The translation of a criterion has three cases for what should not get that far: an operand is
missing, the column should be a member of something that is no list, or there is no condition for the
operator. `Sql.criterionConditionWith` goes through all cases in their order and leaves open what
comes of these three. Nothing can depend on it, for the translation validates the criterion itself:
whatever it is, the conditions and the faults are those of `Sql.criterionCondition`
(`Sql.lastResorts_areNeverReached`).
-/

namespace Quarry.Sql

/-- What comes of criteria that should not have got to their translation: those of
`Criterion.LastResorts`, and `unsupported` for operators without a condition. -/
structure LastResorts extends Criterion.LastResorts (Except RepositoryError Condition) where
  unsupported : Criterion → Except RepositoryError Condition

/-! ## All cases of a translation -/

/-- The `Comparison` of an operator that is one. -/
def comparison? : Operator → Option Comparison
  | .eq => some .eq
  | .ne => some .ne
  | .lt => some .lt
  | .le => some .le
  | .gt => some .gt
  | .ge => some .ge
  | _ => none

/-- As `operandCondition`, with the branches that cannot be reached left to `r`. -/
def operandConditionWith (r : LastResorts) (column : Column) (c : Criterion) (operand : Value) :
    Except RepositoryError Condition :=
  match comparison? c.op with
  | some comparison => compareCondition column.name comparison c.field operand
  | none =>
    match c.op, column.kind with
    | .contains, .array =>
      (argument c.field operand).map fun a => .orFalse (.anyElement column.name a)
    | .contains, .scalar =>
      (textArgument .contains c.field operand).map fun s => .orFalse (.containsText column.name s)
    | .startsWith, _ =>
      (textArgument .startsWith c.field operand).map fun s => .orFalse (.startsWith column.name s)
    | .isIn, _ =>
      match operand with
      | .list candidates => amongCondition column.name c.field candidates
      | _ => r.noList c operand
    | _, _ => r.unsupported c

/-- As `criterionCondition`, with the branches that cannot be reached left to `r`. -/
def criterionConditionWith (r : LastResorts) (m : TableMapping) (c : Criterion) :
    Except RepositoryError Condition :=
  match c.validate with
  | .error e => .error (.invalidQuery (.argument e))
  | .ok () =>
    match m.resolve c.field with
    | .error e => .error e
    | .ok column =>
      match c.question with
      | .isNull => .ok (.isNull column.name)
      | .isNotNull => .ok (.isNotNull column.name)
      | .about operand => operandConditionWith r column c operand
      | .incomplete => r.noOperand c

/-! ## None of them is reached -/

section

variable {c : Criterion} {column : Column} {v : Value}

/-- If `c.op` can take `v`, its condition is made without any of the last resorts `r`. -/
theorem operandConditionWith_of_takes (r : LastResorts) (h : c.op.Takes v) (hv : v.isNull = false) :
    operandConditionWith r column c v = operandCondition column c.op c.field v := by
  obtain ⟨field, op, operand⟩ := c
  cases op with
  | eq | ne => exact (if_neg (ne_true_of_eq_false hv)).symm
  | lt | le | gt | ge => rfl
  | contains =>
    unfold operandConditionWith operandCondition containsCondition
    cases column.kind <;> rfl
  | startsWith => rfl
  | isIn =>
    obtain ⟨vs, rfl⟩ := h.list rfl
    rfl
  | isNull | isNotNull => cases h.binary

/-- The translation validates a criterion before it comes to any of the last resorts `r`. -/
theorem criterionConditionWith_eq (r : LastResorts) (m : TableMapping) (c : Criterion) :
    criterionConditionWith r m c = criterionCondition m c := by
  unfold criterionConditionWith criterionCondition
  cases hvalid : c.validate with
  | error e => rfl
  | ok =>
    cases m.resolve c.field with
    | error e => rfl
    | ok column =>
      rcases Criterion.question_cases hvalid with
        ⟨hquestion, hop | ⟨hop, hnull⟩⟩ | ⟨hquestion, hop | ⟨hop, hnull⟩⟩ |
        ⟨v, hquestion, hoperand, hv, htakes⟩
      · simp only [hquestion, hop]
      · simp only [hquestion, hop, hnull]
        rfl
      · simp only [hquestion, hop]
      · simp only [hquestion, hop, hnull]
        rfl
      · simp only [hquestion, hoperand]
        rw [operandConditionWith_of_takes r htakes hv]
        cases c.op <;> rfl

end

/-- What `r` answers in the last resorts makes no difference to the test of any record by a
well-formed criterion, and none to the translation of any criterion for any table. A criterion that
is not well formed is tested with `mismatches`, the errors of the program, in their place. -/
theorem lastResorts_areNeverReached :
    (∀ c : Criterion, c.IsValid → ∀ (α : Type) [Record α] (record : α)
      (r : Criterion.LastResorts (Except Mismatch Bool)),
      c.evaluateWith r record = c.evaluate record) ∧
    (∀ (c : Criterion) (α : Type) [Record α] (record : α),
      c.evaluateWith .mismatches record = c.evaluate record) ∧
    ∀ (r : LastResorts) (m : TableMapping) (c : Criterion),
      criterionConditionWith r m c = criterionCondition m c := by
  refine ⟨?_, ?_, criterionConditionWith_eq⟩
  · intro c valid α _ record r
    exact Criterion.evaluateWith_of_isValid valid r record
  · intro c α _ record
    exact c.evaluateWith_mismatches record

/-- A well-formed test for membership, with null among the candidates. -/
theorem lastResorts_areNeverReached_membership :
    let c := Criterion.among "zip_code" [.null, .text "30062"]
    c.IsValid ∧ ∀ r, c.evaluateWith r [("zip_code", Value.text "30062")] = .ok true := by
  intro c
  have hvalid : (Criterion.among "zip_code" [.null, .text "30062"]).IsValid := rfl
  refine ⟨hvalid, fun r => ?_⟩
  rw [lastResorts_areNeverReached.1 c hvalid]
  rfl

end Quarry.Sql
