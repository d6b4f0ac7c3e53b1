import Quarry.Proofs.Sql.Clause
import Quarry.Proofs.Sql.Independence
import Quarry.Proofs.Sql.TableMapping

/-!
# Fields and their columns

A query is about fields, and the statement that is made of it is about columns. Every name in the
statement is a part of the name of the table, the key column, or the column that the mapping has for
a field of the query (`Query.name_cases`). What a field is called makes no difference beyond that: a
query about other fields that another mapping has in the same columns is made the same statement
(`Query.SameColumns.yields`).
-/

namespace Quarry.Sql

/-- What can be asked about the rows of a table: to `select` some of them or to `count` them. -/
inductive Query where
  | select (f : Filter) (order : Option FieldOrder) (range : Option RowRange)
  | count (f : Filter)

namespace Query

/-- The statement for a query under the mapping `m`, or why there is none. -/
def statement (m : TableMapping) : Query → Except RepositoryError Statement
  | .select f order range => Sql.select m f order range
  | .count f => Sql.count m f

/-- The fields that a query is about: those of the leaves of `f` and that of the `order`. -/
def fields : Query → List String
  | .select f order _ => f.leaves.map Criterion.field ++ order.toList.map FieldOrder.field
  | .count f => f.leaves.map Criterion.field

end Query

theorem find?_of_resolve {m : TableMapping} {field : String} {column : Column}
    (h : m.resolve field = .ok column) : m.columns.find? field = some column := by
  unfold TableMapping.resolve at h
  split at h
  · next hfound =>
    cases h
    exact hfound
  · cases h

/-! ## Names -/

namespace Fragment

/-- The name that a fragment is, if it is one. -/
def name? : Fragment → Option Identifier
  | words _ => none
  | name i => some i
  | placeholder _ => none

@[simp]
theorem name?_words (s : String) : (words s).name? = none := rfl

@[simp]
theorem name?_name (i : Identifier) : (name i).name? = some i := rfl

end Fragment

@[simp]
theorem filterMap_name?_placeholders (as : List Argument) :
    (placeholders as).filterMap Fragment.name? = [] :=
  (filterMap_placeholders rfl as).trans (List.filterMap_eq_nil_iff.mpr fun _ _ => rfl)

@[simp]
theorem filterMap_name?_nameFragments (is : List Identifier) :
    (nameFragments is).filterMap Fragment.name? = is :=
  (filterMap_nameFragments rfl is).trans List.filterMap_some

namespace Condition

/-- The columns that `c` is about, from left to right. -/
def columns (c : Condition) : List Identifier :=
  c.fragments.filterMap Fragment.name?

theorem columns_among (column : Identifier) (as : List Argument) :
    (among column as).columns = [column] := by
  simp [columns, fragments, List.filterMap_cons]

theorem columns_orFalse (c : Condition) : (orFalse c).columns = c.columns := by
  simp [columns, fragments, List.filterMap_cons]

theorem columns_and (a b : Condition) : (and a b).columns = a.columns ++ b.columns := by
  simp [columns, fragments, List.filterMap_cons]

theorem columns_or (a b : Condition) : (or a b).columns = a.columns ++ b.columns := by
  simp [columns, fragments, List.filterMap_cons]

theorem columns_not (c : Condition) : (not c).columns = c.columns := by
  simp [columns, fragments, List.filterMap_cons]

/-- The condition `c` is about the `column` and no other one. -/
def IsAbout (column : Identifier) (c : Condition) : Prop :=
  ∀ i ∈ c.columns, i = column

theorem isAbout_of_columns {column : Identifier} {c : Condition} (h : c.columns = [column]) :
    c.IsAbout column := by
  intro i hi
  rw [h] at hi
  exact List.eq_of_mem_singleton hi

end Condition

section Operands

variable {column : Identifier} {field : String} {v : Value} {condition : Condition}

theorem isAbout_compareCondition {comparison : Comparison}
    (h : compareCondition column comparison field v = .ok condition) :
    condition.IsAbout column := by
  obtain ⟨a, -, rfl⟩ := map_eq_ok_iff.mp h
  exact Condition.isAbout_of_columns rfl

theorem isAbout_amongCondition {candidates : List Value}
    (h : amongCondition column field candidates = .ok condition) : condition.IsAbout column := by
  obtain ⟨as, -, h⟩ := bind_eq_ok_iff.mp h
  have hamong : (Condition.orFalse (.among column as)).columns = [column] := by
    rw [Condition.columns_orFalse, Condition.columns_among]
  cases h
  split
  · intro i hi
    cases hi
  · exact Condition.isAbout_of_columns rfl
  · exact Condition.isAbout_of_columns hamong
  · intro i hi
    have hcolumns : (Condition.isNull column).columns = [column] := rfl
    rw [Condition.columns_or, hcolumns, hamong] at hi
    simpa using hi

theorem isAbout_containsCondition {column : Column}
    (h : containsCondition column field v = .ok condition) : condition.IsAbout column.name := by
  unfold containsCondition at h
  split at h
  · obtain ⟨a, -, rfl⟩ := map_eq_ok_iff.mp h
    exact Condition.isAbout_of_columns rfl
  · obtain ⟨s, -, rfl⟩ := map_eq_ok_iff.mp h
    exact Condition.isAbout_of_columns rfl

/-- A comparison with a null operand is about the column that its `nullTest` is about. -/
theorem isAbout_compareOrNull {comparison : Comparison} {nullTest : Condition}
    (hnull : nullTest.IsAbout column)
    (h : compareOrNull column comparison nullTest field v = .ok condition) :
    condition.IsAbout column := by
  unfold compareOrNull at h
  split at h
  · cases h
    exact hnull
  · exact isAbout_compareCondition h

/-- The condition for an operand is about the column that it is made for. -/
theorem isAbout_operandCondition {column : Column} {op : Operator}
    (h : operandCondition column op field v = .ok condition) : condition.IsAbout column.name := by
  cases op with
  | eq | ne => exact isAbout_compareOrNull (Condition.isAbout_of_columns rfl) h
  | lt | le | gt | ge => exact isAbout_compareCondition h
  | contains => exact isAbout_containsCondition h
  | startsWith =>
    obtain ⟨s, -, rfl⟩ := map_eq_ok_iff.mp h
    exact Condition.isAbout_of_columns rfl
  | isIn =>
    cases v with
    | list candidates => exact isAbout_amongCondition h
    | _ => cases h
  | isNull | isNotNull =>
    cases h
    exact Condition.isAbout_of_columns rfl

end Operands

namespace TableMapping

/-- The name `i` is that of a column that `m` has for one of the `fields`. -/
def HasColumn (m : TableMapping) (fields : List String) (i : Identifier) : Prop :=
  ∃ field ∈ fields, ∃ column, m.columns.find? field = some column ∧ column.name = i

variable {m : TableMapping} {fields fields' : List String} {i : Identifier}

theorem HasColumn.mono (h : m.HasColumn fields i) (hsub : fields ⊆ fields') :
    m.HasColumn fields' i := by
  obtain ⟨field, hfield, hcolumn⟩ := h
  exact ⟨field, hsub hfield, hcolumn⟩

theorem HasColumn.append {is js : List Identifier} (his : ∀ i ∈ is, m.HasColumn fields i)
    (hjs : ∀ j ∈ js, m.HasColumn fields' j) :
    ∀ i ∈ is ++ js, m.HasColumn (fields ++ fields') i := by
  intro i hi
  rcases List.mem_append.mp hi with hi | hi
  · exact (his i hi).mono (List.subset_append_left _ _)
  · exact (hjs i hi).mono (List.subset_append_right _ _)

end TableMapping

section Names

variable {m : TableMapping}

/-- A criterion is translated into a condition on the column of its field. -/
theorem columns_criterionCondition {c : Criterion} {condition : Condition}
    (h : criterionCondition m c = .ok condition) :
    ∀ i ∈ condition.columns, m.HasColumn [c.field] i := by
  unfold criterionCondition at h
  split at h
  · cases h
  split at h
  · cases h
  rename_i column hcolumn
  have habout : condition.IsAbout column.name := by
    split at h
    · cases h
      exact Condition.isAbout_of_columns rfl
    · cases h
      exact Condition.isAbout_of_columns rfl
    · exact isAbout_operandCondition h
    · cases h
  intro i hi
  rw [habout i hi]
  exact ⟨c.field, List.mem_singleton_self _, column, find?_of_resolve hcolumn, rfl⟩

/-- A filter is translated into a condition on the columns of its fields. -/
theorem columns_filterCondition {f : Filter} {condition : Condition}
    (h : filterCondition m f = .ok condition) :
    ∀ i ∈ condition.columns, m.HasColumn (f.leaves.map Criterion.field) i := by
  induction f generalizing condition with
  | const b =>
    cases h
    cases b <;> exact fun i hi => nomatch hi
  | leaf c => exact columns_criterionCondition h
  | and f g ihf ihg =>
    obtain ⟨a, ha, h⟩ := bind_eq_ok_iff.mp h
    obtain ⟨b, hb, h⟩ := bind_eq_ok_iff.mp h
    cases h
    rw [Condition.columns_and, Formula.leaves, List.map_append]
    exact TableMapping.HasColumn.append (ihf ha) (ihg hb)
  | or f g ihf ihg =>
    obtain ⟨a, ha, h⟩ := bind_eq_ok_iff.mp h
    obtain ⟨b, hb, h⟩ := bind_eq_ok_iff.mp h
    cases h
    rw [Condition.columns_or, Formula.leaves, List.map_append]
    exact TableMapping.HasColumn.append (ihf ha) (ihg hb)
  | not f ih =>
    obtain ⟨a, ha, rfl⟩ := map_eq_ok_iff.mp h
    intro i hi
    rw [Condition.columns_not] at hi
    exact ih ha i hi

theorem columns_rowOrder {order : Option FieldOrder} {o : RowOrder}
    (h : forOption (rowOrder m) order = .ok (some o)) :
    m.HasColumn (order.toList.map FieldOrder.field) o.column := by
  cases order with
  | none => cases h
  | some fieldOrder =>
    obtain ⟨_, hrow, hsome⟩ := map_eq_ok_iff.mp h
    cases hsome
    obtain ⟨column, hcolumn, rfl⟩ := map_eq_ok_iff.mp hrow
    exact ⟨fieldOrder.field, List.mem_singleton_self _, column, find?_of_resolve hcolumn, rfl⟩

/-- The names in a selection are those of the table, of the condition, of the order and of the key.
-/
theorem names_select (table : TableName) (c : Condition) (order : Option RowOrder)
    (key : Identifier) (limit : Option RowLimit) :
    (Statement.select table c order key limit).fragments.filterMap Fragment.name? =
      table.segments ++ c.columns ++ (order.toList.map RowOrder.column ++ [key]) := by
  have horder : (orderFragments order key).filterMap Fragment.name? =
      order.toList.map RowOrder.column ++ [key] := by
    cases order <;> rfl
  have hlimit : (limitFragments limit).filterMap Fragment.name? = [] := by
    cases limit <;> rfl
  simp [Statement.fragments, List.filterMap_cons, horder, hlimit, Condition.columns]

theorem names_count (table : TableName) (c : Condition) :
    (Statement.count table c).fragments.filterMap Fragment.name? = table.segments ++ c.columns := by
  simp [Statement.fragments, List.filterMap_cons, Condition.columns]

/-- A name `i` in a statement for `q` is a segment of the table, the key or a column of a field of
`q`. -/
theorem Query.name_cases {q : Query} {s : Statement} (h : q.statement m = .ok s) {i : Identifier}
    (hi : i ∈ s.fragments.filterMap Fragment.name?) :
    i ∈ m.table.segments ∨ i = m.key ∨ m.HasColumn q.fields i := by
  cases q with
  | select f order range =>
    obtain ⟨condition, hcondition, h⟩ := bind_eq_ok_iff.mp h
    obtain ⟨rowOrder, horder, h⟩ := bind_eq_ok_iff.mp h
    obtain ⟨limit, -, h⟩ := bind_eq_ok_iff.mp h
    cases h
    rw [names_select, List.mem_append, List.mem_append, List.mem_append, List.mem_singleton] at hi
    rcases hi with (hi | hi) | hi | hi
    · exact Or.inl hi
    · have hcolumn := columns_filterCondition hcondition i hi
      exact Or.inr (Or.inr (hcolumn.mono (List.subset_append_left _ _)))
    · obtain ⟨o, ho, rfl⟩ := List.mem_map.mp hi
      rw [Option.mem_toList.mp ho] at horder
      exact Or.inr (Or.inr ((columns_rowOrder horder).mono (List.subset_append_right _ _)))
    · exact Or.inr (Or.inl hi)
  | count f =>
    obtain ⟨condition, hcondition, rfl⟩ := map_eq_ok_iff.mp h
    rw [names_count, List.mem_append] at hi
    rcases hi with hi | hi
    · exact Or.inl hi
    · exact Or.inr (Or.inr (columns_filterCondition hcondition i hi))

end Names

/-! ## Other fields in the same columns -/

section Columns

variable (m m' : TableMapping)

/-- The fields of `c` under `m` and of `d` under `m'` are in one column, and the criteria differ in
no more. -/
structure SameColumn (c d : Criterion) : Prop where
  column : m'.columns.find? d.field = m.columns.find? c.field
  named : Text.isBlankText d.field = false
  op : d.op = c.op
  operand : d.operand = c.operand

/-- The fields of the orders `o` and `p` are in one column, and both orders go in one direction. -/
structure SameOrder (o p : FieldOrder) : Prop where
  column : m'.columns.find? p.field = m.columns.find? o.field
  direction : p.direction = o.direction

/-- The queries differ only in fields that `m` and `m'` have in the same columns. -/
inductive Query.SameColumns : Query → Query → Prop
  | select {f g : Filter} {order order' : Option FieldOrder} (range : Option RowRange)
    (filter : f.SameShape (SameColumn m m') g)
    (sorting : Option.Rel (SameOrder m m') order order') :
    SameColumns (.select f order range) (.select g order' range)
  | count {f g : Filter} (filter : f.SameShape (SameColumn m m') g) :
    SameColumns (.count f) (.count g)

end Columns

section OtherField

variable (column : Identifier) (field field' : String) (v : Value)

theorem argument_yields : Yields (argument field v) (argument field' v) := by
  intro a h
  cases v with
  | null | list items => cases h
  | _ => exact h

theorem textArgument_yields (op : Operator) :
    Yields (textArgument op field v) (textArgument op field' v) := by
  intro s h
  cases v with
  | text s => exact h
  | _ => cases h

theorem compareCondition_yields (comparison : Comparison) :
    Yields (compareCondition column comparison field v)
      (compareCondition column comparison field' v) :=
  (argument_yields field field' v).map _

theorem compareOrNull_yields (comparison : Comparison) (nullTest : Condition) :
    Yields (compareOrNull column comparison nullTest field v)
      (compareOrNull column comparison nullTest field' v) := by
  unfold compareOrNull
  split
  · exact .refl _
  · exact compareCondition_yields column field field' v comparison

/-- The name of a field is only in the errors: if a condition for `field` is made, so it is for
`field'`. -/
theorem operandCondition_yields (column : Column) (op : Operator) :
    Yields (operandCondition column op field v) (operandCondition column op field' v) := by
  cases op with
  | eq | ne => exact compareOrNull_yields column.name field field' v _ _
  | lt | le | gt | ge => exact compareCondition_yields column.name field field' v _
  | contains =>
    show Yields (containsCondition column field v) (containsCondition column field' v)
    unfold containsCondition
    split
    · exact (argument_yields field field' v).map _
    · exact (textArgument_yields field field' v .contains).map _
  | startsWith => exact (textArgument_yields field field' v .startsWith).map _
  | isIn =>
    cases v with
    | list candidates =>
      have harguments := Yields.mapM (fun v => argument_yields field field' v)
        (candidates.filter fun v => !v.isNull)
      exact harguments.bind fun _ => .refl _
    | _ =>
      intro condition h
      cases h
  | isNull | isNotNull => exact .refl _

/-- The other tests of `Criterion.validate` are about the operator and the operand, so `c` remains
well formed with another field that is not blank. -/
theorem validate_of_named {c : Criterion} (hc : c.validate = .ok ())
    (hnamed : Text.isBlankText field' = false) :
    Criterion.validate ⟨field', c.op, c.operand⟩ = .ok () := by
  obtain ⟨field, op, operand⟩ := c
  unfold Criterion.validate at hc ⊢
  dsimp only at hc ⊢
  rw [if_neg (Bool.eq_false_iff.mp hnamed)]
  split at hc
  · cases hc
  cases operand with
  | none => grind
  | some v => grind

end OtherField

section Statements

variable {m m' : TableMapping}

theorem resolve_yields {field field' : String}
    (h : m'.columns.find? field' = m.columns.find? field) :
    Yields (m.resolve field) (m'.resolve field') := by
  intro column hcolumn
  unfold TableMapping.resolve
  rw [h, find?_of_resolve hcolumn]

/-- If `c` is translated under `m`, a criterion `d` with `SameColumn` is translated alike under
`m'`. -/
theorem SameColumn.yields {c d : Criterion} (h : SameColumn m m' c d) :
    Yields (criterionCondition m c) (criterionCondition m' d) := by
  intro condition hcondition
  obtain ⟨field, op, operand⟩ := c
  obtain ⟨field', op', operand'⟩ := d
  obtain ⟨hfield, hnamed, rfl, rfl⟩ := h
  unfold criterionCondition at hcondition ⊢
  split at hcondition
  · cases hcondition
  rename_i hvalid
  split at hcondition
  · cases hcondition
  rename_i column hcolumn
  rw [validate_of_named field' hvalid hnamed, resolve_yields hfield column hcolumn]
  dsimp only at hcondition ⊢
  split at hcondition
  · exact hcondition
  · exact hcondition
  · exact operandCondition_yields field field' _ column _ condition hcondition
  · cases hcondition

/-- If `f` is translated under `m`, a filter `g` of that shape is translated alike under `m'`. -/
theorem filterCondition_yields {f g : Filter} (h : f.SameShape (SameColumn m m') g) :
    Yields (filterCondition m f) (filterCondition m' g) := by
  induction h with
  | const b => exact .refl _
  | leaf related => exact related.yields
  | and _ _ ihleft ihright | or _ _ ihleft ihright =>
    exact ihleft.bind fun a => ihright.bind fun b => .refl _
  | not _ ih => exact ih.map _

theorem rowOrder_yields {order order' : Option FieldOrder}
    (h : Option.Rel (SameOrder m m') order order') :
    Yields (forOption (rowOrder m) order) (forOption (rowOrder m') order') := by
  cases h with
  | none => exact .refl _
  | some horder =>
    refine Yields.map ?_ some
    unfold rowOrder
    rw [horder.direction]
    exact (resolve_yields horder.column).map _

/-- The statement for `q` is also that for a query `q'` about other fields in the same columns. -/
theorem Query.SameColumns.yields {q q' : Query} (h : q.SameColumns m m' q')
    (htable : m'.table = m.table) (hkey : m'.key = m.key) :
    Yields (q.statement m) (q'.statement m') := by
  cases h with
  | select range filter sorting =>
    unfold Query.statement Sql.select
    rw [htable, hkey]
    exact (filterCondition_yields filter).bind fun condition =>
      (rowOrder_yields sorting).bind fun o => .refl _
  | count filter =>
    unfold Query.statement Sql.count
    rw [htable]
    exact (filterCondition_yields filter).map _

end Statements

end Quarry.Sql
