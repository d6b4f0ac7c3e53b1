import Quarry.Criterion
import Quarry.Proofs.Except

/-!
# Criteria

What it takes for a criterion to be well formed, and how a record comes into its test: only by the
value of the field.
-/

namespace Quarry

/-- What `op` can have for an operand: one if it is binary, a list for membership, and null only
where equality is asked. -/
structure Operator.Takes (op : Operator) (v : Value) : Prop where
  binary : op.isUnary = false
  list : op = .isIn → ∃ vs, v = .list vs
  null : v.isNull = true → op = .eq ∨ op = .ne

namespace Criterion

/-! ## Well-formedness -/

/-- The field of `c` is named, and the operand is one that the operator can have. -/
structure MakesSense (c : Criterion) : Prop where
  named : Text.isBlankText c.field = false
  unary : c.operand = none → c.op.isUnary = true
  takes : ∀ v, c.operand = some v → c.op.Takes v

/-- What is wrong with `c`. No more than one of these is the case. -/
inductive Fault (c : Criterion) : ArgumentError → Prop
  | blankField (blank : Text.isBlankText c.field = true) : Fault c .blankField
  | operandMissing (named : Text.isBlankText c.field = false) (binary : c.op.isUnary = false)
    (missing : c.operand = none) : Fault c (.operandMissing c.op c.field)
  | operandNotTaken {v : Value} (named : Text.isBlankText c.field = false)
    (unary : c.op.isUnary = true) (operand : c.operand = some v) :
    Fault c (.operandNotTaken c.op c.field)
  | inNeedsList {v : Value} (named : Text.isBlankText c.field = false) (membership : c.op = .isIn)
    (operand : c.operand = some v) (single : v.items? = none) : Fault c (.inNeedsList c.field v.type)
  | nullOperand (named : Text.isBlankText c.field = false) (binary : c.op.isUnary = false)
    (unequal : c.op ≠ .isIn ∧ c.op ≠ .eq ∧ c.op ≠ .ne) (operand : c.operand = some .null) :
    Fault c (.nullOperand c.op c.field)

variable {c : Criterion} {e : ArgumentError}

theorem validate_of_makesSense (h : c.MakesSense) : c.validate = .ok () := by
  rw [validate, h.named, if_neg Bool.false_ne_true]
  cases hoperand : c.operand with
  | none =>
    have hunary := h.unary hoperand
    exact if_pos hunary
  | some v =>
    have htakes := h.takes v hoperand
    have hlist : ¬(c.op = .isIn ∧ v.items?.isNone) := by
      rintro ⟨hop, hsingle⟩
      obtain ⟨vs, rfl⟩ := htakes.list hop
      cases hsingle
    have hnull : ¬(v.isNull ∧ c.op ≠ .eq ∧ c.op ≠ .ne) := by
      rintro ⟨hv, heq, hne⟩
      exact (htakes.null hv).elim heq hne
    dsimp only
    rw [htakes.binary, if_neg Bool.false_ne_true, if_neg hlist, if_neg hnull]

/-- The fault of a criterion is what `validate` reports. -/
theorem validate_of_fault (h : c.Fault e) : c.validate = .error e := by
  rw [validate]
  cases h with
  | blankField blank => rw [if_pos blank]
  | operandMissing named binary missing =>
    rw [named, if_neg Bool.false_ne_true, missing]
    dsimp only
    rw [binary, if_neg Bool.false_ne_true]
  | operandNotTaken named unary operand =>
    rw [named, if_neg Bool.false_ne_true, operand]
    dsimp only
    rw [if_pos unary]
  | inNeedsList named membership operand single =>
    rw [named, if_neg Bool.false_ne_true, operand]
    dsimp only
    rw [membership, if_neg (by decide), single, if_pos ⟨rfl, rfl⟩]
  | nullOperand named binary unequal operand =>
    rw [named, if_neg Bool.false_ne_true, operand]
    dsimp only
    rw [binary, if_neg Bool.false_ne_true, if_neg fun h => unequal.1 h.1, if_pos ⟨rfl, unequal.2⟩]

theorem exists_fault_of_not_takes {v : Value} (named : Text.isBlankText c.field = false)
    (binary : c.op.isUnary = false) (operand : c.operand = some v) (h : ¬c.op.Takes v) :
    ∃ e, c.Fault e := by
  by_cases hlist : c.op = .isIn ∧ v.items? = none
  · exact ⟨_, .inNeedsList named hlist.1 operand hlist.2⟩
  · by_cases hnull : v.isNull = true ∧ c.op ≠ .eq ∧ c.op ≠ .ne
    · obtain ⟨hv, hop⟩ := hnull
      cases v with
      | null => exact ⟨_, .nullOperand named binary ⟨fun hin => hlist ⟨hin, rfl⟩, hop⟩ operand⟩
      | _ => cases hv
    · refine absurd ⟨binary, ?_, ?_⟩ h
      · intro hin
        cases v with
        | list vs => exact ⟨vs, rfl⟩
        | _ => exact absurd ⟨hin, rfl⟩ hlist
      · intro hv
        refine Classical.byContradiction fun hop => ?_
        exact hnull ⟨hv, not_or.mp hop⟩

/-- A criterion makes sense or has a fault. -/
theorem makesSense_or_fault (c : Criterion) : c.MakesSense ∨ ∃ e, c.Fault e := by
  cases named : Text.isBlankText c.field with
  | true => exact Or.inr ⟨_, .blankField named⟩
  | false =>
    cases operand : c.operand with
    | none =>
      cases hunary : c.op.isUnary with
      | true => exact Or.inl ⟨named, fun _ => hunary, fun v hv => nomatch operand.symm.trans hv⟩
      | false => exact Or.inr ⟨_, .operandMissing named hunary operand⟩
    | some v =>
      cases hunary : c.op.isUnary with
      | true => exact Or.inr ⟨_, .operandNotTaken named hunary operand⟩
      | false =>
        by_cases htakes : c.op.Takes v
        · refine Or.inl ⟨named, ?_, ?_⟩
          · intro hnone
            cases operand.symm.trans hnone
          · intro w hw
            cases operand.symm.trans hw
            exact htakes
        · exact Or.inr (exists_fault_of_not_takes named hunary operand htakes)

/-- A criterion is well formed just if it makes sense, and otherwise its `Fault` is reported. -/
theorem settledBy_validate (c : Criterion) : SettledBy c.MakesSense c.Fault c.validate where
  ok h := ⟨(), validate_of_makesSense h⟩
  error _ := validate_of_fault
  complete := c.makesSense_or_fault

theorem makesSense_of_isValid (h : c.IsValid) : c.MakesSense :=
  c.settledBy_validate.exists_ok_iff.mp ⟨(), h⟩

theorem takes_of_isValid {field : String} {op : Operator} {v : Value}
    (h : IsValid ⟨field, op, some v⟩) : op.Takes v :=
  (makesSense_of_isValid h).takes v rfl

/-- A valid criterion without an operand has an operator that takes none. -/
theorem isUnary_of_isValid {field : String} {op : Operator} (h : IsValid ⟨field, op, none⟩) :
    op.isUnary = true :=
  (makesSense_of_isValid h).unary rfl

/-! ## Evaluation -/

/-- A criterion tests the value `v` of its field, and names the field in its errors. -/
theorem evaluate_of_field? {α : Type} [Record α] {record : α} (c : Criterion) {v : Value}
    (h : Record.field? record c.field = some v) :
    c.evaluate record = (c.testValue v).mapError (.typeMismatch c.field) := by
  rw [evaluate, h]

end Criterion

end Quarry
