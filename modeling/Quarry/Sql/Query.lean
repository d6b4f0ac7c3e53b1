import Quarry.Filter
import Quarry.Ordering
import Quarry.Page
import Quarry.Sql.Statement
import Quarry.Sql.TableMapping

/-!
# Filters as SQL queries

A filter becomes the condition of a statement, criterion by criterion. The condition has a truth
value on every row, the one that the filter has: in memory a comparison with a null field is false
and its negation true, so each comparison is made false where SQL gives it no truth value.

Operands are not converted to the type of the column, as comparing in memory does with texts. A
filter that SQL cannot express is refused as a whole, with the fault of its leftmost criterion at
fault.
-/

namespace Quarry.Sql

/-- The argument that an operand for `field` becomes. Null and lists have none. -/
def argument (field : String) : Value → Except RepositoryError Argument
  | .bool b => .ok (.bool b)
  | .int n => .ok (.int n)
  | .float x => .ok (.float x)
  | .uuid u => .ok (.uuid u)
  | .timestamp t => .ok (.timestamp t)
  | .text s => .ok (.text s)
  | v => .error (.inexpressible (.notComparable field v.type))

/-- The text that an operand of `op` for `field` has to be. -/
def textArgument (op : Operator) (field : String) : Value → Except RepositoryError String
  | .text s => .ok s
  | v => .error (.inexpressible (.needsText op field v.type))

/-- The condition that `column` is equal to one of `candidates`. Null among them asks whether the
column is null. -/
def amongCondition (column : Identifier) (field : String) (candidates : List Value) :
    Except RepositoryError Condition := do
  let nulls := candidates.any Value.isNull
  let arguments ← (candidates.filter fun v => !v.isNull).mapM (argument field)
  .ok <|
    match arguments.isEmpty, nulls with
    | true, false => .const false
    | true, true => .isNull column
    | false, false => .orFalse (.among column arguments)
    | false, true => .or (.isNull column) (.orFalse (.among column arguments))

/-- The condition for the `comparison` of `column` with `operand`, false where it is unknown. -/
def compareCondition (column : Identifier) (comparison : Comparison) (field : String)
    (operand : Value) : Except RepositoryError Condition :=
  (argument field operand).map fun a => .orFalse (.compare column comparison a)

/-- The `comparison` of `column` with `operand`, or the condition `nullTest` if the operand is null.
Equality with null asks whether the column is null, and inequality whether it is not. -/
def compareOrNull (column : Identifier) (comparison : Comparison) (nullTest : Condition)
    (field : String) (operand : Value) : Except RepositoryError Condition :=
  if operand.isNull then .ok nullTest else compareCondition column comparison field operand

/-- The condition that `operand` is an element of an array column or a part of a text column. -/
def containsCondition (column : Column) (field : String) (operand : Value) :
    Except RepositoryError Condition :=
  match column.kind with
  | .array => (argument field operand).map fun a => .orFalse (.anyElement column.name a)
  | .scalar =>
    (textArgument .contains field operand).map fun s => .orFalse (.containsText column.name s)

/-- The condition for the test of `column` by `op` against `operand`. Errors name `field`. -/
def operandCondition (column : Column) (op : Operator) (field : String) (operand : Value) :
    Except RepositoryError Condition :=
  match op with
  | .eq => compareOrNull column.name .eq (.isNull column.name) field operand
  | .ne => compareOrNull column.name .ne (.isNotNull column.name) field operand
  | .lt => compareCondition column.name .lt field operand
  | .le => compareCondition column.name .le field operand
  | .gt => compareCondition column.name .gt field operand
  | .ge => compareCondition column.name .ge field operand
  | .contains => containsCondition column field operand
  | .startsWith =>
    (textArgument .startsWith field operand).map fun s => .orFalse (.startsWith column.name s)
  | .isIn =>
    match operand with
    | .list candidates => amongCondition column.name field candidates
    | v => .error (.invalidQuery (.argument (.inNeedsList field v.type)))
  | .isNull => .ok (.isNull column.name)
  | .isNotNull => .ok (.isNotNull column.name)

/-- The condition for the criterion `c`, which has to be well formed and about a field that `m`
maps. -/
def criterionCondition (m : TableMapping) (c : Criterion) : Except RepositoryError Condition :=
  match c.validate with
  | .error e => .error (.invalidQuery (.argument e))
  | .ok () =>
    match m.resolve c.field with
    | .error e => .error e
    | .ok column =>
      match c.op, c.operand with
      | .isNull, _ => .ok (.isNull column.name)
      | .isNotNull, _ => .ok (.isNotNull column.name)
      | op, some operand => operandCondition column op c.field operand
      | op, none => .error (.invalidQuery (.argument (.operandMissing op c.field)))

/-- The condition for a filter under the mapping `m`, criterion by criterion. The leftmost one at
fault is reported. -/
def filterCondition (m : TableMapping) : Filter → Except RepositoryError Condition
  | .const b => .ok (.const b)
  | .leaf c => criterionCondition m c
  | .and a b => do
    let a ← filterCondition m a
    let b ← filterCondition m b
    .ok (.and a b)
  | .or a b => do
    let a ← filterCondition m a
    let b ← filterCondition m b
    .ok (.or a b)
  | .not a => (filterCondition m a).map .not

/-- A sorting of entities by a `field`. -/
structure FieldOrder where
  field : String
  direction : SortDirection

/-- The sorting by the column of the field of `o`. -/
def rowOrder (m : TableMapping) (o : FieldOrder) : Except RepositoryError RowOrder :=
  (m.resolve o.field).map fun column => ⟨column.name, o.direction = .descending⟩

/-- The number `n` of rows, which has to fit in 63 bits; `fault` is reported otherwise. -/
def rowCount (n : Nat) (fault : QueryError) : Except RepositoryError Int64 :=
  if n < 2 ^ 63 then .ok (Int64.ofNat n) else .error (.invalidQuery fault)

/-- The part of the sorted rows that is the range `r`. -/
def rowLimit (r : RowRange) : Except RepositoryError RowLimit := do
  let limit ← rowCount r.take .pageSizeTooLarge
  let offset ← rowCount r.skip .pageOffsetTooLarge
  .ok ⟨limit, offset⟩

/-- Applies `f` to a value that is there and does nothing for an absent one. -/
def forOption {α β : Type} (f : α → Except RepositoryError β) :
    Option α → Except RepositoryError (Option β)
  | some a => (f a).map some
  | none => .ok none

/-- The statement for the rows that pass the filter `f`, in the given order and range. -/
def select (m : TableMapping) (f : Filter) (order : Option FieldOrder) (range : Option RowRange) :
    Except RepositoryError Statement := do
  let condition ← filterCondition m f
  let order ← forOption (rowOrder m) order
  let limit ← forOption rowLimit range
  .ok (.select m.table condition order m.key limit)

/-- The statement for the number of rows that pass the filter `f`. -/
def count (m : TableMapping) (f : Filter) : Except RepositoryError Statement :=
  (filterCondition m f).map (.count m.table)

end Quarry.Sql
