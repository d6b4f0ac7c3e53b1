import Quarry.Proofs.Criterion
import Quarry.Proofs.Except
import Quarry.Sql.Query

/-!
# What the database can be asked

A filter can be expressed in SQL just if each of its leaves can, and a leaf that makes no difference
to the truth value counts like every other one. Of a filter that cannot be expressed the leftmost
leaf at fault is reported. A statement that sorts and cuts its rows has two further parts, which are
looked at after the filter and in this order (`translation_isExact`).

Each of these is a computation that succeeds under a condition and otherwise has a fault. Computations
in a row succeed if each of them does, and the first fault is the fault of all of them
(`SettledBy.bind`).
-/

namespace Quarry.Sql

/-! ## Operands -/

/-- A column of the `kind` can be tested for an operand. Null is a value like others here: whether
an operator can take it is a question of `Criterion.IsValid`. -/
inductive OperandFits (kind : ColumnKind) : Operator → Option Value → Prop
  | isNull (operand : Option Value) : OperandFits kind .isNull operand
  | isNotNull (operand : Option Value) : OperandFits kind .isNotNull operand
  | comparison {op : Operator} {v : Value} (compares : op ∈ [.eq, .ne, .lt, .le, .gt, .ge])
    (single : v.items? = none) : OperandFits kind op (some v)
  | element {v : Value} (array : kind = .array) (single : v.items? = none) :
    OperandFits kind .contains (some v)
  | part (scalar : kind = .scalar) (s : String) : OperandFits kind .contains (some (.text s))
  | start (s : String) : OperandFits kind .startsWith (some (.text s))
  | candidates {vs : List Value} (single : ∀ v ∈ vs, v.items? = none) :
    OperandFits kind .isIn (some (.list vs))

/-- What is said about an operand `v` that does not fit a column of the `kind`. -/
def misfit (kind : ColumnKind) (op : Operator) (field : String) (v : Value) : ExpressionError :=
  match op, kind with
  | .startsWith, _ => .needsText op field v.type
  | .contains, .scalar => .needsText op field v.type
  | _, _ => .notComparable field .list

section Operands

variable {kind : ColumnKind} {op : Operator} {field : String} {v : Value}

theorem operandFits_comparison_iff (h : op ∈ [.eq, .ne, .lt, .le, .gt, .ge]) :
    OperandFits kind op (some v) ↔ v.items? = none := by
  constructor
  · intro hfits
    cases hfits with
    | comparison _ single => exact single
    | _ => simp at h
  · exact .comparison h

theorem operandFits_element_iff : OperandFits .array .contains (some v) ↔ v.items? = none := by
  constructor
  · intro hfits
    cases hfits with
    | comparison compares => simp at compares
    | element _ single => exact single
    | part scalar => cases scalar
  · exact .element rfl

theorem operandFits_part_iff :
    OperandFits .scalar .contains (some v) ↔ ∃ s, v = .text s := by
  constructor
  · intro hfits
    cases hfits with
    | comparison compares => simp at compares
    | element array => cases array
    | part _ s => exact ⟨s, rfl⟩
  · rintro ⟨s, rfl⟩
    exact .part rfl s

theorem operandFits_start_iff : OperandFits kind .startsWith (some v) ↔ ∃ s, v = .text s := by
  constructor
  · intro hfits
    cases hfits with
    | comparison compares => simp at compares
    | start s => exact ⟨s, rfl⟩
  · rintro ⟨s, rfl⟩
    exact .start s

theorem operandFits_candidates_iff {vs : List Value} :
    OperandFits kind .isIn (some (.list vs)) ↔ ∀ v ∈ vs, v.items? = none := by
  constructor
  · intro hfits
    cases hfits with
    | comparison compares => simp at compares
    | candidates single => exact single
  · exact .candidates

/-- A value that is not null becomes an argument if it is not a list. -/
theorem succeedsIf_argument (hnull : v.isNull = false) :
    SucceedsIf (v.items? = none) (.inexpressible (.notComparable field .list))
      (argument field v) := by
  cases v with
  | null => cases hnull
  | list items => exact .of_error nofun rfl
  | _ => exact .of_ok rfl rfl

theorem succeedsIf_textArgument :
    SucceedsIf (∃ s, v = .text s) (.inexpressible (.needsText op field v.type))
      (textArgument op field v) := by
  cases v with
  | text s => exact .of_ok ⟨s, rfl⟩ rfl
  | _ => exact .of_error nofun rfl

theorem succeedsIf_compareCondition (column : Identifier) (comparison : Comparison)
    (hnull : v.isNull = false) :
    SucceedsIf (v.items? = none) (.inexpressible (.notComparable field .list))
      (compareCondition column comparison field v) :=
  (succeedsIf_argument hnull).map _

/-- A test for membership can be written if no candidate is a list; a null has no argument of its
own. -/
theorem succeedsIf_amongCondition (column : Identifier) (vs : List Value) :
    SucceedsIf (∀ v ∈ vs, v.items? = none) (.inexpressible (.notComparable field .list))
      (amongCondition column field vs) := by
  have hsingle : (∀ v ∈ vs.filter fun v => !v.isNull, v.items? = none) ↔
      ∀ v ∈ vs, v.items? = none := by
    constructor
    · intro h v hv
      cases v with
      | null => rfl
      | _ => exact h _ (List.mem_filter.mpr ⟨hv, rfl⟩)
    · intro h v hv
      exact h v (List.mem_filter.mp hv).1
  have harguments : SucceedsIf (∀ v ∈ vs.filter fun v => !v.isNull, v.items? = none)
      (.inexpressible (.notComparable field .list))
      ((vs.filter fun v => !v.isNull).mapM (argument field)) := by
    refine .mapM fun v hv => succeedsIf_argument ?_
    simpa using (List.mem_filter.mp hv).2
  exact (harguments.bind_of_ok fun as => ⟨_, rfl⟩).congr hsingle

theorem succeedsIf_compareOrNull (column : Identifier) (comparison : Comparison)
    (nullTest : Condition) :
    SucceedsIf (v.items? = none) (.inexpressible (.notComparable field .list))
      (compareOrNull column comparison nullTest field v) := by
  unfold compareOrNull
  cases hnull : v.isNull with
  | true =>
    cases v with
    | null => exact .of_ok rfl rfl
    | _ => cases hnull
  | false => exact succeedsIf_compareCondition column comparison hnull

/-- A test by `contains` can be written if the operand fits the column. -/
theorem succeedsIf_containsCondition {column : Column} (hnull : v.isNull = false) :
    SucceedsIf (OperandFits column.kind .contains (some v))
      (.inexpressible (misfit column.kind .contains field v))
      (containsCondition column field v) := by
  unfold containsCondition
  cases column.kind with
  | array => exact ((succeedsIf_argument hnull).map _).congr operandFits_element_iff.symm
  | scalar => exact (succeedsIf_textArgument.map _).congr operandFits_part_iff.symm

/-- If `op` can take `v`, a test for `v` can be written just if `v` fits the column, and is a
`misfit` otherwise. -/
theorem succeedsIf_operandCondition {column : Column} (h : op.Takes v) :
    SucceedsIf (OperandFits column.kind op (some v))
      (.inexpressible (misfit column.kind op field v)) (operandCondition column op field v) := by
  have hnull (hop : op ≠ .eq ∧ op ≠ .ne) : v.isNull = false := by
    rw [Bool.eq_false_iff]
    intro hv
    exact (h.null hv).elim hop.1 hop.2
  cases op with
  | eq | ne =>
    exact (succeedsIf_compareOrNull column.name _ _).congr
      (operandFits_comparison_iff (by simp)).symm
  | lt | le | gt | ge =>
    exact (succeedsIf_compareCondition column.name _ (hnull ⟨nofun, nofun⟩)).congr
      (operandFits_comparison_iff (by simp)).symm
  | contains => exact succeedsIf_containsCondition (hnull ⟨nofun, nofun⟩)
  | startsWith => exact (succeedsIf_textArgument.map _).congr operandFits_start_iff.symm
  | isIn =>
    obtain ⟨vs, rfl⟩ := h.list rfl
    exact (succeedsIf_amongCondition column.name vs).congr operandFits_candidates_iff.symm
  | isNull | isNotNull => cases h.binary

end Operands

/-! ## Criteria -/

/-- SQL can express the criterion `c` about a row of the table: `c` is well formed, and its field is
mapped to a column that its operand fits. -/
structure TableMapping.Expresses (m : TableMapping) (c : Criterion) : Prop where
  valid : c.IsValid
  fits : ∃ column, m.columns.find? c.field = some column ∧ OperandFits column.kind c.op c.operand

/-- What is reported about a criterion `c` that SQL cannot express: what `c.validate` says if it is
not well formed, then that its field is not mapped, and then the `misfit` of its operand. -/
inductive CriterionFault (m : TableMapping) (c : Criterion) : RepositoryError → Prop
  | malformed {e : ArgumentError} (invalid : c.validate = .error e) :
    CriterionFault m c (.invalidQuery (.argument e))
  | unmapped (valid : c.IsValid) (absent : m.columns.find? c.field = none) :
    CriterionFault m c (.inexpressible (.unmappedField c.field m.table.text))
  | misfit {column : Column} {v : Value} (valid : c.IsValid)
    (mapped : m.columns.find? c.field = some column) (operand : c.operand = some v)
    (unfit : ¬OperandFits column.kind c.op c.operand) :
    CriterionFault m c (.inexpressible (misfit column.kind c.op c.field v))

section Criteria

variable {m : TableMapping} {c : Criterion}

theorem resolve_of_find? {field : String} {column : Column}
    (h : m.columns.find? field = some column) : m.resolve field = .ok column := by
  rw [TableMapping.resolve, h]

theorem resolve_of_unmapped {field : String} (h : m.columns.find? field = none) :
    m.resolve field = .error (.inexpressible (.unmappedField field m.table.text)) := by
  rw [TableMapping.resolve, h]

section Mapped

variable {column : Column} (valid : c.IsValid) (mapped : m.columns.find? c.field = some column)
include valid mapped

theorem criterionCondition_of_operand {v : Value} (operand : c.operand = some v) :
    criterionCondition m c = operandCondition column c.op c.field v := by
  rw [criterionCondition, valid, resolve_of_find? mapped, operand]
  cases c.op <;> rfl

theorem exists_criterionCondition_of_unary (operand : c.operand = none) :
    OperandFits column.kind c.op c.operand ∧
      ∃ condition, criterionCondition m c = .ok condition := by
  rw [criterionCondition, valid, resolve_of_find? mapped]
  obtain ⟨field, op, _ | v⟩ := c
  · have hunary := Criterion.isUnary_of_isValid valid
    cases op with
    | isNull => exact ⟨.isNull none, _, rfl⟩
    | isNotNull => exact ⟨.isNotNull none, _, rfl⟩
    | _ => cases hunary
  · cases operand

/-- A well-formed criterion with a mapped field is translated just if its operand `v` fits the
`column`. -/
theorem succeedsIf_criterionCondition {v : Value} (operand : c.operand = some v) :
    SucceedsIf (OperandFits column.kind c.op c.operand)
      (.inexpressible (misfit column.kind c.op c.field v)) (criterionCondition m c) := by
  have htakes : c.op.Takes v := by
    obtain ⟨field, op, operand'⟩ := c
    cases operand
    exact Criterion.takes_of_isValid valid
  rw [criterionCondition_of_operand valid mapped operand, operand]
  exact succeedsIf_operandCondition htakes

end Mapped

/-- A criterion is translated just if `m` expresses it, and its `CriterionFault` is reported
otherwise. -/
theorem settledBy_criterionCondition :
    SettledBy (m.Expresses c) (CriterionFault m c) (criterionCondition m c) where
  ok := by
    rintro ⟨valid, column, mapped, fits⟩
    cases hoperand : c.operand with
    | none => exact (exists_criterionCondition_of_unary valid mapped hoperand).2
    | some v => exact (succeedsIf_criterionCondition valid mapped hoperand).ok fits
  error := by
    intro e he
    cases he with
    | malformed invalid => rw [criterionCondition, invalid]
    | unmapped valid absent => rw [criterionCondition, valid, resolve_of_unmapped absent]
    | misfit valid mapped operand unfit =>
      exact (succeedsIf_criterionCondition valid mapped operand).error _ ⟨unfit, rfl⟩
  complete := by
    cases hvalid : c.validate with
    | error e => exact Or.inr ⟨_, .malformed hvalid⟩
    | ok =>
      cases hcolumn : m.columns.find? c.field with
      | none => exact Or.inr ⟨_, .unmapped hvalid hcolumn⟩
      | some column =>
        cases hoperand : c.operand with
        | none =>
          have hfits := (exists_criterionCondition_of_unary hvalid hcolumn hoperand).1
          exact Or.inl ⟨hvalid, column, hcolumn, hfits⟩
        | some v =>
          rcases Classical.em (OperandFits column.kind c.op c.operand) with hfits | hunfit
          · exact Or.inl ⟨hvalid, column, hcolumn, hfits⟩
          · exact Or.inr ⟨_, .misfit hvalid hcolumn hoperand hunfit⟩

end Criteria

/-! ## Filters -/

/-- What is reported about `f`: the `CriterionFault` of the leftmost leaf that `m` does not express.
-/
def FilterFault (m : TableMapping) (f : Filter) : RepositoryError → Prop :=
  FirstFault m.Expresses (CriterionFault m) f.leaves

/-- A filter is translated leaf by leaf, from left to right. Both parts of a conjunction or
disjunction are, whatever the truth value of the first one is. -/
theorem settledByAll_filterCondition (m : TableMapping) (f : Filter) :
    SettledByAll m.Expresses (CriterionFault m) f.leaves (filterCondition m f) := by
  induction f with
  | const b => exact settledByAll_nil (Condition.const b)
  | leaf c => exact settledBy_criterionCondition.singleton
  | and a b iha ihb => exact iha.append ihb Condition.and
  | or a b iha ihb => exact iha.append ihb Condition.or
  | not a ih => exact ih.map Condition.not

/-! ## Sorting and cutting -/

/-- The field has a column in `m`. -/
def TableMapping.Maps (m : TableMapping) (field : String) : Prop :=
  ∃ column, m.columns.find? field = some column

section Clauses

variable {m : TableMapping}

theorem succeedsIf_rowOrder (o : FieldOrder) :
    SucceedsIf (m.Maps o.field) (.inexpressible (.unmappedField o.field m.table.text))
      (rowOrder m o) := by
  unfold rowOrder
  cases hcolumn : m.columns.find? o.field with
  | none =>
    rw [resolve_of_unmapped hcolumn]
    refine .of_error ?_ rfl
    rintro ⟨column, h⟩
    rw [hcolumn] at h
    cases h
  | some column =>
    rw [resolve_of_find? hcolumn]
    exact .of_ok ⟨column, hcolumn⟩ rfl

/-- A count fits into a statement if it is below `2 ^ 63`; the `fault` is reported otherwise. -/
theorem succeedsIf_rowCount (n : Nat) (fault : QueryError) :
    SucceedsIf (n < 2 ^ 63) (.invalidQuery fault) (rowCount n fault) := by
  unfold rowCount
  split
  · next h => exact .of_ok h rfl
  · next h => exact .of_error h rfl

/-- A range fits into a statement if both of its numbers do, and `take` is looked at before `skip`.
-/
theorem settledBy_rowLimit (r : RowRange) :
    SettledBy (r.take < 2 ^ 63 ∧ r.skip < 2 ^ 63)
      (fun e => ¬r.take < 2 ^ 63 ∧ e = .invalidQuery .pageSizeTooLarge ∨
        r.take < 2 ^ 63 ∧ ¬r.skip < 2 ^ 63 ∧ e = .invalidQuery .pageOffsetTooLarge)
      (rowLimit r) := by
  unfold rowLimit
  simp only [bind_ok_eq_map]
  exact (succeedsIf_rowCount r.take _).bind fun limit => (succeedsIf_rowCount r.skip _).map _

/-- An optional part is settled as the part is, and its absence is always good. -/
theorem settledBy_forOption {α β : Type} {f : α → Except RepositoryError β} {good : α → Prop}
    {fault : α → RepositoryError → Prop} (h : ∀ a, SettledBy (good a) (fault a) (f a))
    (o : Option α) :
    SettledBy (∀ a ∈ o, good a) (fun e => ∃ a ∈ o, fault a e) (forOption f o) := by
  cases o with
  | none => exact ⟨fun _ => ⟨none, rfl⟩, nofun, Or.inl nofun⟩
  | some a =>
    have ha : SettledBy (good a) (fault a) (forOption f (some a)) := (h a).map some
    exact ha.congr (by simp) fun e => by simp

end Clauses

/-! ## Statements -/

/-- What `select` reports: the `FilterFault` of `f`, or else that the order's field is not mapped,
or else the first number of the range that is too large. -/
inductive SelectFault (m : TableMapping) (f : Filter) :
    Option FieldOrder → Option RowRange → RepositoryError → Prop
  | filter {order : Option FieldOrder} {range : Option RowRange} {e : RepositoryError}
    (fault : FilterFault m f e) : SelectFault m f order range e
  | order {o : FieldOrder} {range : Option RowRange} (expressed : ∀ c ∈ f.leaves, m.Expresses c)
    (unmapped : ¬m.Maps o.field) :
    SelectFault m f (some o) range (.inexpressible (.unmappedField o.field m.table.text))
  | take {order : Option FieldOrder} {r : RowRange} (expressed : ∀ c ∈ f.leaves, m.Expresses c)
    (mapped : ∀ o ∈ order, m.Maps o.field) (large : 2 ^ 63 ≤ r.take) :
    SelectFault m f order (some r) (.invalidQuery .pageSizeTooLarge)
  | skip {order : Option FieldOrder} {r : RowRange} (expressed : ∀ c ∈ f.leaves, m.Expresses c)
    (mapped : ∀ o ∈ order, m.Maps o.field) (fits : r.take < 2 ^ 63) (large : 2 ^ 63 ≤ r.skip) :
    SelectFault m f order (some r) (.invalidQuery .pageOffsetTooLarge)

variable (m : TableMapping) (f : Filter)

/-- A selection is translated if each of its parts is, and its `SelectFault` is reported otherwise.
-/
theorem settledBy_select (order : Option FieldOrder) (range : Option RowRange) :
    SettledBy ((∀ c ∈ f.leaves, m.Expresses c) ∧ (∀ o ∈ order, m.Maps o.field) ∧
        ∀ r ∈ range, r.take < 2 ^ 63 ∧ r.skip < 2 ^ 63)
      (SelectFault m f order range) (select m f order range) := by
  have horder := settledBy_forOption (succeedsIf_rowOrder (m := m)) order
  have hrange := settledBy_forOption settledBy_rowLimit range
  have hparts := (settledByAll_filterCondition m f).bind fun condition =>
    horder.bind fun rowOrder => hrange.map fun limit =>
      Statement.select m.table condition rowOrder m.key limit
  unfold select
  simp only [bind_ok_eq_map]
  refine hparts.congr Iff.rfl fun e => ⟨?_, ?_⟩
  · rintro (hfilter | ⟨hexpressed, ⟨o, rfl, hunmapped, rfl⟩ | ⟨hmapped, r, rfl, hcut⟩⟩)
    · exact .filter hfilter
    · exact .order hexpressed hunmapped
    · rcases hcut with ⟨hlarge, rfl⟩ | ⟨hfits, hlarge, rfl⟩
      · exact .take hexpressed hmapped (Nat.le_of_not_lt hlarge)
      · exact .skip hexpressed hmapped hfits (Nat.le_of_not_lt hlarge)
  · intro he
    cases he with
    | filter hfilter => exact Or.inl hfilter
    | order hexpressed hunmapped => exact Or.inr ⟨hexpressed, Or.inl ⟨_, rfl, hunmapped, rfl⟩⟩
    | take hexpressed hmapped hlarge =>
      exact Or.inr ⟨hexpressed, Or.inr ⟨hmapped, _, rfl, Or.inl ⟨Nat.not_lt.mpr hlarge, rfl⟩⟩⟩
    | skip hexpressed hmapped hfits hlarge =>
      exact Or.inr ⟨hexpressed, Or.inr ⟨hmapped, _, rfl,
        Or.inr ⟨hfits, Nat.not_lt.mpr hlarge, rfl⟩⟩⟩

/-- A filter `f` is translated just if `m` expresses each of its leaves; a constant beside a leaf
does not excuse it. Otherwise the `FilterFault` is reported, that of the leftmost other leaf. A
selection needs no more than a mapped field to sort by and a `range` whose numbers are below
`2 ^ 63`, and a `SelectFault` about these is reported if the filter has no fault. -/
theorem translation_isExact :
    ((∃ s, count m f = .ok s) ↔ ∀ c ∈ f.leaves, m.Expresses c) ∧
      (∀ e, count m f = .error e ↔ FilterFault m f e) ∧
      ∀ order range,
        ((∃ s, select m f order range = .ok s) ↔
          (∀ c ∈ f.leaves, m.Expresses c) ∧ (∀ o ∈ order, m.Maps o.field) ∧
            ∀ r ∈ range, r.take < 2 ^ 63 ∧ r.skip < 2 ^ 63) ∧
        ∀ e, select m f order range = .error e ↔ SelectFault m f order range e := by
  have hcount := (settledByAll_filterCondition m f).map (Statement.count m.table)
  refine ⟨hcount.exists_ok_iff, hcount.eq_error_iff, fun order range => ?_⟩
  have hselect := settledBy_select m f order range
  exact ⟨hselect.exists_ok_iff, hselect.eq_error_iff⟩

example : count m (.and (.const false) (.leaf (.binary .lt "age" .null))) =
    .error (.invalidQuery (.argument (.nullOperand .lt "age"))) := rfl

end Quarry.Sql
