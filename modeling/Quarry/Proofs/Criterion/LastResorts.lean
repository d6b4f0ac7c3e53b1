import Quarry.Proofs.Criterion

/-!
# Last resorts

A test goes by the cases of the operator and the operand. Some of these cases are there for criteria
that should have been refused before: an operand is missing, or a field should be a member of
something that is no list. `Criterion.evaluateWith` goes through all cases in their order and leaves
open what is answered in these two. With the errors that the program reports there, it is the test of
a record (`Criterion.evaluateWith_mismatches`).

What is answered in the two cases makes no difference just if the criterion has the operand that its
operator needs (`Criterion.testValueWith_irrelevant_iff`), and it has it if it makes sense.
-/

namespace Quarry.Criterion

/-- Answers about criteria that should have been refused before: those without an operand, and those
for membership without a list. -/
structure LastResorts (β : Type) where
  noOperand : Criterion → β
  noList : Criterion → Value → β

/-- The errors that the program reports. -/
def LastResorts.mismatches : LastResorts (Except Mismatch Bool) where
  noOperand c := .error (.operandMissing c.op)
  noList _ operand := .error (.inNeedsList operand.type)

/-- What is asked about a value; `incomplete` is a question without the operand that it needs. -/
inductive Question where
  | isNull
  | isNotNull
  | about (operand : Value)
  | incomplete

/-- The question of `c`. Equality with null is the question whether the value is null. -/
def question (c : Criterion) : Question :=
  match c.op, c.operand with
  | .isNull, _ => .isNull
  | .isNotNull, _ => .isNotNull
  | .eq, some .null => .isNull
  | .ne, some .null => .isNotNull
  | _, some operand => .about operand
  | _, none => .incomplete

/-- What is left of the questions when `c` is valid: it is asked whether the value is null, or there
is an operand other than null that the operator can take. -/
theorem question_cases {c : Criterion} (h : c.IsValid) :
    (c.question = .isNull ∧ (c.op = .isNull ∨ c.op = .eq ∧ c.operand = some .null)) ∨
    (c.question = .isNotNull ∧ (c.op = .isNotNull ∨ c.op = .ne ∧ c.operand = some .null)) ∨
    ∃ v, c.question = .about v ∧ c.operand = some v ∧ v.isNull = false ∧ c.op.Takes v := by
  obtain ⟨field, op, _ | v⟩ := c
  · have hunary := isUnary_of_isValid h
    cases op with
    | isNull => exact Or.inl ⟨rfl, Or.inl rfl⟩
    | isNotNull => exact Or.inr (Or.inl ⟨rfl, Or.inl rfl⟩)
    | _ => cases hunary
  · have htakes := takes_of_isValid h
    cases hv : v.isNull with
    | true =>
      obtain rfl : v = .null := by
        cases v with
        | null => rfl
        | _ => cases hv
      rcases htakes.null rfl with rfl | rfl
      · exact Or.inl ⟨rfl, Or.inr ⟨rfl, rfl⟩⟩
      · exact Or.inr (Or.inl ⟨rfl, Or.inr ⟨rfl, rfl⟩⟩)
    | false =>
      refine Or.inr (Or.inr ⟨v, ?_, rfl, hv, htakes⟩)
      have hbinary := htakes.binary
      cases op with
      | isNull | isNotNull => cases hbinary
      | eq | ne => cases v <;> first | rfl | cases hv
      | _ => rfl

/-! ## All cases of a test -/

/-- The answer of `c` for a value and an operand, with `r` where a list is missing. -/
def answerWith (r : LastResorts (Except Mismatch Bool)) (c : Criterion) (actual operand : Value) :
    Except Mismatch Bool :=
  match c.op with
  | .eq | .ne | .lt | .le | .gt | .ge => compareWith c.op actual operand
  | .contains => contains actual operand
  | .startsWith => startsWith actual operand
  | .isIn =>
    match operand with
    | .list candidates => equalsAny actual candidates
    | _ => r.noList c operand
  | .isNull => .ok actual.isNull
  | .isNotNull => .ok !actual.isNull

/-- The test of the value `actual`, with `r` where the operand that is needed is missing. -/
def testValueWith (r : LastResorts (Except Mismatch Bool)) (c : Criterion) (actual : Value) :
    Except Mismatch Bool :=
  match c.question with
  | .isNull => .ok actual.isNull
  | .isNotNull => .ok !actual.isNull
  | .about operand => c.answerWith r actual operand
  | .incomplete => r.noOperand c

/-- The test of a `record`, with `r` where the operand that is needed is missing. -/
def evaluateWith {α : Type} [Record α] (r : LastResorts (Except Mismatch Bool)) (c : Criterion)
    (record : α) : Except EvaluationError Bool :=
  match Record.field? record c.field with
  | none => .error (.unknownField c.field)
  | some actual => (c.testValueWith r actual).mapError (.typeMismatch c.field)

variable {c : Criterion}

/-- With the errors of the program, the test of a value is that of the program. -/
theorem testValueWith_mismatches (c : Criterion) (actual : Value) :
    c.testValueWith .mismatches actual = c.testValue actual := by
  obtain ⟨field, op, _ | operand⟩ := c
  · cases op <;> rfl
  · cases op with
    | eq | ne | isIn => cases operand <;> rfl
    | _ => rfl

/-- With the errors of the program, the test of a record is that of the program. -/
theorem evaluateWith_mismatches {α : Type} [Record α] (c : Criterion) (record : α) :
    c.evaluateWith .mismatches record = c.evaluate record := by
  unfold evaluateWith evaluate
  cases Record.field? record c.field with
  | none => rfl
  | some actual => exact congrArg (Except.mapError _) (c.testValueWith_mismatches actual)

/-! ## Whether they are reached -/

/-- The criterion `c` has the operand that its operator needs. -/
structure IsAnswerable (c : Criterion) : Prop where
  complete : c.operand = none → c.op.isUnary = true
  list : ∀ v, c.operand = some v → c.op = .isIn → ∃ vs, v = .list vs

theorem MakesSense.isAnswerable (h : c.MakesSense) : c.IsAnswerable :=
  ⟨h.unary, fun v hv => (h.takes v hv).list⟩

/-- An answerable criterion does not come to any of the last resorts. -/
theorem IsAnswerable.testValueWith (h : c.IsAnswerable) (r r' : LastResorts (Except Mismatch Bool))
    (actual : Value) : c.testValueWith r actual = c.testValueWith r' actual := by
  obtain ⟨field, op, _ | operand⟩ := c
  · have hunary := h.complete rfl
    cases op with
    | isNull | isNotNull => rfl
    | _ => cases hunary
  · cases op with
    | isIn =>
      obtain ⟨vs, rfl⟩ := h.list operand rfl rfl
      rfl
    | eq | ne => cases operand <;> rfl
    | _ => rfl

/-- A criterion without the operand that it needs comes to one of the last resorts, and only such a
one does. -/
theorem testValueWith_irrelevant_iff (c : Criterion) (actual : Value) :
    (∀ r, c.testValueWith r actual = c.testValue actual) ↔ c.IsAnswerable := by
  constructor
  · intro h
    have hyes := h ⟨fun _ => .ok true, fun _ _ => .ok true⟩
    obtain ⟨field, op, operand⟩ := c
    constructor
    · rintro rfl
      cases op with
      | isNull | isNotNull => rfl
      | _ => cases hyes
    · rintro v rfl rfl
      cases v with
      | list vs => exact ⟨vs, rfl⟩
      | _ => cases hyes
  · intro h r
    rw [h.testValueWith r .mismatches, testValueWith_mismatches]

/-- What `r` answers does not matter to a valid criterion. -/
theorem evaluateWith_of_isValid {α : Type} [Record α] (h : c.IsValid)
    (r : LastResorts (Except Mismatch Bool)) (record : α) :
    c.evaluateWith r record = c.evaluate record := by
  have hanswerable := (makesSense_of_isValid h).isAnswerable
  rw [← evaluateWith_mismatches]
  unfold evaluateWith
  cases Record.field? record c.field with
  | none => rfl
  | some actual =>
    exact congrArg (Except.mapError _) (hanswerable.testValueWith r .mismatches actual)

end Quarry.Criterion
