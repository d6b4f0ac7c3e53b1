import Quarry.Error
import Quarry.Record

/-!
# Criteria

A criterion tests one field of a record by an operator and mostly an operand. It can be put together
in any way; `Criterion.validate` says whether it makes sense, and `Criterion.evaluate` tests a
record.

A test against null never holds, except that "equal to null" and "not equal to null" ask whether the
field is null.
-/

namespace Quarry

/-- A test of one `field`, by the operator `op` and with the `operand` that it takes, if it takes
one. -/
structure Criterion where
  field : String
  op : Operator
  operand : Option Value

namespace Criterion

/-! ## Well-formedness -/

/-- Checks that `c.field` is not blank and that `c.operand` is one that `c.op` can take. -/
def validate (c : Criterion) : Except ArgumentError Unit :=
  if Text.isBlankText c.field then .error .blankField
  else
    match c.operand with
    | none => if c.op.isUnary then .ok () else .error (.operandMissing c.op c.field)
    | some v =>
      if c.op.isUnary then .error (.operandNotTaken c.op c.field)
      else if c.op = .isIn ∧ v.items?.isNone then .error (.inNeedsList c.field v.type)
      else if v.isNull ∧ c.op ≠ .eq ∧ c.op ≠ .ne then .error (.nullOperand c.op c.field)
      else .ok ()

/-- The criterion makes sense: `validate` accepts it. -/
def IsValid (c : Criterion) : Prop :=
  c.validate = .ok ()

/-! ## Evaluation -/

/-- Compares `actual` with `operand` and asks whether their order is one in which `op` holds. -/
def compareWith (op : Operator) (actual operand : Value) : Except Mismatch Bool :=
  match actual.compare operand with
  | .ok o => .ok (op.holdsOf o)
  | .error types => .error (.incomparable types)

/-- Some of the values equals `operand`. They are compared with it in order, up to the first one
that does. -/
def anyEqualTo (operand : Value) : List Value → Except Mismatch Bool
  | [] => .ok false
  | v :: vs =>
    match compareWith .eq v operand with
    | .ok false => anyEqualTo operand vs
    | r => r

/-- The value `actual` equals some of the operands. They are compared with it in order, up to the
first one that does. -/
def equalsAny (actual : Value) : List Value → Except Mismatch Bool
  | [] => .ok false
  | v :: vs =>
    match compareWith .eq actual v with
    | .ok false => equalsAny actual vs
    | r => r

/-- Whether a text occurs in a `text` field, or a value is an item of a `list` field. -/
def contains : Value → Value → Except Mismatch Bool
  | .null, _ => .ok false
  | .text s, .text t => .ok (Text.contains s t)
  | .list items, operand => anyEqualTo operand items
  | actual, operand => .error (.containsUndefined actual.type operand.type)

/-- Whether a `text` field starts with a text. -/
def startsWith : Value → Value → Except Mismatch Bool
  | .null, _ => .ok false
  | .text s, .text t => .ok (Text.startsWith s t)
  | actual, operand => .error (.startsWithNeedsTexts actual.type operand.type)

/-- The value `actual` equals an item of the operand, which has to be a list (`equalsAny`). -/
def isMember (actual : Value) : Value → Except Mismatch Bool
  | .list candidates => equalsAny actual candidates
  | operand => .error (.inNeedsList operand.type)

/-- The test of `actual` against `operand` by `op`. A test of equality against null asks whether
`actual` is null, and a null satisfies no other test. -/
def testOperand (op : Operator) (actual operand : Value) : Except Mismatch Bool :=
  match op with
  | .eq => if operand.isNull then .ok actual.isNull else compareWith .eq actual operand
  | .ne => if operand.isNull then .ok !actual.isNull else compareWith .ne actual operand
  | .contains => contains actual operand
  | .startsWith => startsWith actual operand
  | .isIn => isMember actual operand
  | .isNull => .ok actual.isNull
  | .isNotNull => .ok !actual.isNull
  | op => compareWith op actual operand

/-- The test of the value `actual` by `c`, or the reason why their types do not fit. -/
def testValue (c : Criterion) (actual : Value) : Except Mismatch Bool :=
  match c.op, c.operand with
  | .isNull, _ => .ok actual.isNull
  | .isNotNull, _ => .ok !actual.isNull
  | op, some operand => testOperand op actual operand
  | op, none => .error (.operandMissing op)

/-- The test of the field `c.field` of `record`, which has to be there. -/
def evaluate {α : Type} [Record α] (c : Criterion) (record : α) : Except EvaluationError Bool :=
  match Record.field? record c.field with
  | none => .error (.unknownField c.field)
  | some actual => (c.testValue actual).mapError (.typeMismatch c.field)

/-! ## Text -/

/-- The text of `c`: the field, the symbol of the operator and the operand. -/
def render (c : Criterion) : String :=
  match c.operand with
  | some v => c.field ++ " " ++ c.op.symbol ++ " " ++ v.render
  | none => c.field ++ " " ++ c.op.symbol

/-! ## Building -/

/-- The test of `field` by `op` against `operand`. -/
def binary (op : Operator) (field : String) (operand : Value) : Criterion :=
  ⟨field, op, some operand⟩

/-- The test whether `field` starts with the text `start`. -/
def startingWith (field start : String) : Criterion :=
  binary .startsWith field (.text start)

/-- The test whether `field` equals one of the `candidates`. -/
def among (field : String) (candidates : List Value) : Criterion :=
  binary .isIn field (.list candidates)

/-- The test of `field` by `op`, which takes no operand. -/
def unary (op : Operator) (field : String) : Criterion :=
  ⟨field, op, none⟩

end Criterion

end Quarry
