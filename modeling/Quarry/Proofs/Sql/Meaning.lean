import Quarry.Proofs.Except
import Quarry.Proofs.Sql.Clause
import Quarry.Sql.Query

/-!
# What a filter means to the database

A filter that can be turned into a statement has the same truth value there as in memory. In memory
a test of a null field is false; in SQL it is unknown, and each comparison is made false where it is
unknown before anything negates it. So no clause of a filter is ever unknown.

The two sides agree on a row as far as its columns hold nulls or values of the types that the
operands have (`Criterion.Suits`); other pairs of types are in no common order in memory either, or
are only made comparable there by reading texts.
-/

namespace Quarry.Sql

/-! ## Values of cells -/

/-- The value of a field for a value of a column; a timestamp is read with `Timestamp.ofMicros`. -/
def Scalar.value : Scalar → Value
  | .bool b => .bool b
  | .int n => .int n
  | .float x => .float x
  | .uuid u => .uuid u
  | .timestamp m => .timestamp (Timestamp.ofMicros m)
  | .text s => .text s

/-- The value of a field that is read from a cell; a `null` in an array is one of the list's items.
-/
def Cell.value : Cell → Value
  | .null => .null
  | .scalar s => s.value
  | .array elements => .list (elements.map (Value.ofOption Scalar.value))

/-- The value of a column is of the operand's type. Moments are in whole microseconds, and floats
suit no operand, since SQL has a NaN equal to itself. -/
def Scalar.Suits : Scalar → Value → Prop
  | .bool _, .bool _ => True
  | .int _, .int _ => True
  | .uuid _, .uuid _ => True
  | .timestamp _, .timestamp t => t.IsWholeMicros
  | .text _, .text _ => True
  | _, _ => False

namespace Cell

/-- The cell is `null` or of the operand's type. -/
def Suits : Cell → Value → Prop
  | .null, _ => True
  | .scalar s, v => s.Suits v
  | .array _, _ => False

/-- The cell is `null`, or an array whose elements are null or of the operand's type. -/
def ElementsSuit : Cell → Value → Prop
  | .null, _ => True
  | .scalar _, _ => False
  | .array elements, v => ∀ s, some s ∈ elements → s.Suits v

end Cell

/-- A column of the `kind` holds in `cell` what the operand of `c` can be compared with. Tests for
null ask for nothing. -/
def Suits (kind : ColumnKind) (cell : Cell) (c : Criterion) : Prop :=
  match c.op, kind, c.operand with
  | .contains, .array, some v => cell.ElementsSuit v
  | .isIn, _, some (.list candidates) => ∀ v ∈ candidates, v.isNull = false → cell.Suits v
  | _, _, some v => v.isNull = false → cell.Suits v
  | _, _, none => True

/-! ## Comparing -/

theorem textOrder_eq (s t : String) : textOrder s t = compare s t := rfl

/-- A value `s` that suits `v` is in one order with it on both sides. -/
theorem Scalar.Suits.compare {s : Scalar} {v : Value} {a : Argument} {field : String}
    (h : s.Suits v) (ha : argument field v = .ok a) :
    ∃ o, s.order? a.bound = some o ∧ s.value.compare v = .ok (some o) := by
  cases s with
  | bool b =>
    cases v with
    | bool c =>
      cases ha
      exact ⟨_, rfl, rfl⟩
    | _ => exact h.elim
  | int n =>
    cases v with
    | int k =>
      cases ha
      exact ⟨_, rfl, rfl⟩
    | _ => exact h.elim
  | float x => exact h.elim
  | uuid u =>
    cases v with
    | uuid w =>
      cases ha
      exact ⟨_, rfl, rfl⟩
    | _ => exact h.elim
  | timestamp m =>
    cases v with
    | timestamp t =>
      cases ha
      exact ⟨_, rfl, congrArg (fun o => Except.ok (some o)) (Timestamp.compare_ofMicros m h)⟩
    | _ => exact h.elim
  | text s =>
    cases v with
    | text t =>
      cases ha
      exact ⟨_, rfl, congrArg (fun o => Except.ok (some o)) (textOrder_eq s t).symm⟩
    | _ => exact h.elim

/-- The `comparison` is what the operator `op` is in SQL: it holds in the same orders, and `op` does
not hold without an order. -/
def Comparison.IsOf (comparison : Comparison) (op : Operator) : Prop :=
  op.holdsOf none = false ∧ ∀ o, op.holdsOf (some o) = comparison.admits o

theorem Comparison.isOf_eq : Comparison.eq.IsOf .eq :=
  ⟨rfl, fun o => by cases o <;> rfl⟩

theorem Comparison.isOf_ne : Comparison.ne.IsOf .ne :=
  ⟨rfl, fun o => by cases o <;> rfl⟩

theorem Comparison.isOf_lt : Comparison.lt.IsOf .lt :=
  ⟨rfl, fun o => by cases o <;> rfl⟩

theorem Comparison.isOf_le : Comparison.le.IsOf .le :=
  ⟨rfl, fun o => by cases o <;> rfl⟩

theorem Comparison.isOf_gt : Comparison.gt.IsOf .gt :=
  ⟨rfl, fun o => by cases o <;> rfl⟩

theorem Comparison.isOf_ge : Comparison.ge.IsOf .ge :=
  ⟨rfl, fun o => by cases o <;> rfl⟩

/-- An operand `v` that becomes an argument is not null. -/
theorem argument_ne_null {field : String} {v : Value} {a : Argument}
    (ha : argument field v = .ok a) : v.isNull = false := by
  cases v with
  | null => cases ha
  | _ => rfl

theorem compare_null_left {v : Value} (h : v.isNull = false) :
    Value.compare .null v = .ok none := by
  cases v with
  | null => cases h
  | _ => rfl

theorem compare_null_right {v : Value} (h : v.isNull = false) :
    v.compare .null = .ok none := by
  cases v with
  | null => cases h
  | _ => rfl

/-- A cell is `null` just if its value is. -/
theorem Cell.isNull_value (cell : Cell) : cell.value.isNull = cell.isNull := by
  cases cell with
  | null => rfl
  | scalar s => cases s <;> rfl
  | array elements => rfl

/-- A comparison that is made false where it is unknown is `Criterion.compareWith` of the operator.
-/
theorem compareTo_eq {cell : Cell} {v : Value} {a : Argument} {field : String} {op : Operator}
    {comparison : Comparison} (hop : comparison.IsOf op) (hcell : cell.Suits v)
    (ha : argument field v = .ok a) :
    ∃ t, cell.compareTo comparison a.bound = .ok t ∧
      Criterion.compareWith op cell.value v = .ok (t.getD false) := by
  cases cell with
  | null =>
    refine ⟨none, rfl, ?_⟩
    show Criterion.compareWith op .null v = _
    rw [Criterion.compareWith, compare_null_left (argument_ne_null ha)]
    exact congrArg Except.ok hop.1
  | scalar s =>
    obtain ⟨o, horder, hcompare⟩ := Scalar.Suits.compare hcell ha
    refine ⟨some (comparison.admits o), ?_, ?_⟩
    · rw [Cell.compareTo, horder]
    · show Criterion.compareWith op s.value v = _
      rw [Criterion.compareWith, hcompare]
      exact congrArg Except.ok (hop.2 o)
  | array elements => exact hcell.elim

theorem Truth.orFalse_eq (t : Truth) : Truth.orFalse t = some (t.getD false) := by
  cases t <;> rfl

/-- Made false where it is unknown, a disjunction is that of its sides made false. -/
theorem Truth.getD_or (t u : Truth) :
    (Truth.or t u).getD false = (t.getD false || u.getD false) := by
  rcases t with _ | _ | _ <;> rcases u with _ | _ | _ <;> rfl

/-! ## Elements and candidates -/

/-- Among `cells` that suit `v`, some cell equals `v` in SQL just if it does in memory. -/
theorem anyEqual_eq {v : Value} {a : Argument} {field : String} (ha : argument field v = .ok a)
    (cells : List Cell) (hcells : ∀ cell ∈ cells, cell.Suits v) :
    ∃ t, Cell.anyEqual a.bound cells = .ok t ∧
      Criterion.anyEqualTo v (cells.map Cell.value) = .ok (t.getD false) := by
  induction cells with
  | nil => exact ⟨some false, rfl, rfl⟩
  | cons cell rest ih =>
    rw [List.forall_mem_cons] at hcells
    obtain ⟨first, hfirst, hmatch⟩ := compareTo_eq Comparison.isOf_eq hcells.1 ha
    obtain ⟨others, hothers, hmatches⟩ := ih hcells.2
    refine ⟨Truth.or first others, ?_, ?_⟩
    · rw [Cell.anyEqual, hfirst, hothers]
      rfl
    · rw [List.map_cons, Criterion.anyEqualTo, hmatch, Truth.getD_or, hmatches]
      cases first.getD false <;> rfl

/-- A test of an array's elements is `Criterion.contains`, once it is false where it is unknown. -/
theorem anyElement_eq {cell : Cell} {v : Value} {a : Argument} {field : String}
    (ha : argument field v = .ok a) (hcell : cell.ElementsSuit v) :
    ∃ t, cell.anyElement a.bound = .ok t ∧
      Criterion.contains cell.value v = .ok (t.getD false) := by
  cases cell with
  | null => exact ⟨none, rfl, rfl⟩
  | scalar s => exact hcell.elim
  | array elements =>
    have hcells : ∀ cell ∈ elements.map Cell.ofElement, cell.Suits v := by
      intro cell hmem
      obtain ⟨e, he, rfl⟩ := List.mem_map.mp hmem
      cases e with
      | none => trivial
      | some s => exact hcell s he
    obtain ⟨t, hany, hequal⟩ := anyEqual_eq ha _ hcells
    have hvalues : (elements.map Cell.ofElement).map Cell.value = elements.map (Value.ofOption Scalar.value) := by
      rw [List.map_map]
      exact List.map_congr_left fun e _ => by cases e <;> rfl
    rw [hvalues] at hequal
    exact ⟨t, hany, hequal⟩

/-- A null field is among `candidates` just if one of them is null. -/
theorem equalsAny_null (candidates : List Value) :
    Criterion.equalsAny .null candidates = .ok (candidates.any Value.isNull) := by
  induction candidates with
  | nil => rfl
  | cons v rest ih =>
    rw [Criterion.equalsAny, Criterion.compareWith, List.any_cons]
    cases hv : v.isNull with
    | true =>
      cases v with
      | null => rfl
      | _ => cases hv
    | false =>
      rw [compare_null_left hv]
      exact ih

/-- A field that is not null is among `candidates` just if it equals one that is not null either. -/
theorem equalsAny_eq {cell : Cell} {field : String} (hcell : cell.isNull = false)
    (candidates : List Value) (hall : ∀ v ∈ candidates, v.isNull = false → cell.Suits v)
    {arguments : List Argument}
    (hargs : (candidates.filter fun v => !v.isNull).mapM (argument field) = .ok arguments) :
    ∃ t, cell.among (arguments.map Argument.bound) = .ok t ∧
      Criterion.equalsAny cell.value candidates = .ok (t.getD false) := by
  induction candidates generalizing arguments with
  | nil =>
    cases hargs
    exact ⟨some false, rfl, rfl⟩
  | cons v rest ih =>
    rw [List.forall_mem_cons] at hall
    cases hv : v.isNull with
    | true =>
      rw [List.filter_cons_of_neg (by rw [hv]; decide)] at hargs
      obtain ⟨t, hamong, hequals⟩ := ih hall.2 hargs
      refine ⟨t, hamong, ?_⟩
      cases v with
      | null =>
        rw [Criterion.equalsAny, Criterion.compareWith,
          compare_null_right (cell.isNull_value.trans hcell)]
        exact hequals
      | _ => cases hv
    | false =>
      rw [List.filter_cons_of_pos (by rw [hv]; decide), List.mapM_cons] at hargs
      obtain ⟨a, ha, hargs⟩ := bind_eq_ok_iff.mp hargs
      obtain ⟨others, hrest, hargs⟩ := bind_eq_ok_iff.mp hargs
      cases hargs
      obtain ⟨first, hfirst, hmatch⟩ := compareTo_eq Comparison.isOf_eq (hall.1 hv) ha
      obtain ⟨t, hamong, hequals⟩ := ih hall.2 hrest
      refine ⟨Truth.or first t, ?_, ?_⟩
      · rw [List.map_cons, Cell.among, hfirst, hamong]
        rfl
      · rw [Criterion.equalsAny, hmatch, Truth.getD_or, hequals]
        cases first.getD false <;> rfl

/-- A `null` cell is not known to be among any values. -/
theorem among_null (vs : List Scalar) :
    ∃ t, Cell.null.among vs = .ok t ∧ t.getD false = false := by
  induction vs with
  | nil => exact ⟨some false, rfl, rfl⟩
  | cons v rest ih =>
    obtain ⟨t, hamong, hfalse⟩ := ih
    refine ⟨Truth.or none t, ?_, ?_⟩
    · rw [Cell.among, hamong]
      rfl
    · rw [Truth.getD_or, hfalse]
      rfl

/-- A field is among `candidates` if it is null and one of them is, or if it equals one that is not
null. -/
theorem equalsAny_eq_or {cell : Cell} {field : String} {candidates : List Value}
    (hall : ∀ v ∈ candidates, v.isNull = false → cell.Suits v) {arguments : List Argument}
    (hargs : (candidates.filter fun v => !v.isNull).mapM (argument field) = .ok arguments) :
    ∃ t, cell.among (arguments.map Argument.bound) = .ok t ∧
      Criterion.equalsAny cell.value candidates =
        .ok (cell.isNull && candidates.any Value.isNull || t.getD false) := by
  cases hnull : cell.isNull with
  | true =>
    cases cell with
    | null =>
      obtain ⟨t, hamong, hfalse⟩ := among_null (arguments.map Argument.bound)
      refine ⟨t, hamong, ?_⟩
      rw [hfalse, Bool.or_false, Bool.true_and]
      exact equalsAny_null candidates
    | scalar s => cases hnull
    | array elements => cases hnull
  | false =>
    simp only [Bool.false_and, Bool.false_or]
    exact equalsAny_eq hnull candidates hall hargs

/-! ## Texts -/

/-- The `position` of a text is a positive number just if the text occurs. -/
theorem position_pos_iff (needle cs : List Char) :
    0 < Cell.position needle cs ↔ Text.occursIn needle cs = true := by
  induction cs with
  | nil =>
    rw [Cell.position, Text.occursIn, List.isEmpty_iff]
    split
    · next h => exact ⟨fun _ => h, fun _ => Nat.one_pos⟩
    · next h => exact ⟨fun h => absurd h (Nat.lt_irrefl 0), fun he => absurd he h⟩
  | cons c cs ih =>
    rw [Cell.position, Text.occursIn, Bool.or_eq_true, List.isPrefixOf_iff_prefix, ← ih]
    split
    · next h => exact ⟨fun _ => Or.inl h, fun _ => Nat.one_pos⟩
    · next h =>
      cases Cell.position needle cs with
      | zero => exact ⟨fun hpos => Or.inr hpos, fun hor => hor.resolve_left h⟩
      | succ n => exact ⟨fun _ => Or.inr (Nat.succ_pos n), fun _ => Nat.succ_pos _⟩

theorem containsText_eq {cell : Cell} {s : String} (hcell : cell.Suits (.text s)) :
    ∃ t, cell.containsText (.text s) = .ok t ∧
      Criterion.contains cell.value (.text s) = .ok (t.getD false) := by
  cases cell with
  | null => exact ⟨none, rfl, rfl⟩
  | scalar v =>
    cases v with
    | text u =>
      refine ⟨_, rfl, congrArg Except.ok ?_⟩
      show Text.contains u s = decide (0 < Cell.position s.toList u.toList)
      rw [Bool.eq_iff_iff, decide_eq_true_iff, position_pos_iff]
      rfl
    | _ => exact hcell.elim
  | array elements => exact hcell.elim

theorem startsWith_eq {cell : Cell} {s : String} (hcell : cell.Suits (.text s)) :
    ∃ t, cell.startsWith (.text s) = .ok t ∧
      Criterion.startsWith cell.value (.text s) = .ok (t.getD false) := by
  cases cell with
  | null => exact ⟨none, rfl, rfl⟩
  | scalar v =>
    cases v with
    | text u =>
      refine ⟨_, rfl, congrArg Except.ok ?_⟩
      show Text.startsWith u s = decide (s.toList <+: u.toList)
      rw [Bool.eq_iff_iff, decide_eq_true_iff]
      exact List.isPrefixOf_iff_prefix
    | _ => exact hcell.elim
  | array elements => exact hcell.elim

/-! ## Criteria -/

/-- On the `row`, the condition has the truth value of the `test`, which is known. -/
def Condition.Agrees (condition : Condition) (row : Row) (test : Except Mismatch Bool) : Prop :=
  ∃ b, condition.eval row = .ok (some b) ∧ test = .ok b

theorem Condition.eval_not {row : Row} {a : Condition} {x : Bool}
    (ha : a.eval row = .ok (some x)) : (Condition.not a).eval row = .ok (some !x) := by
  rw [Condition.eval, ha]
  exact congrArg Except.ok (Truth.not_some x)

theorem Condition.eval_and {row : Row} {a b : Condition} {x y : Bool}
    (ha : a.eval row = .ok (some x)) (hb : b.eval row = .ok (some y)) :
    (Condition.and a b).eval row = .ok (some (x && y)) := by
  rw [Condition.eval, ha, hb]
  exact congrArg Except.ok (Truth.and_some x y)

theorem Condition.eval_or {row : Row} {a b : Condition} {x y : Bool}
    (ha : a.eval row = .ok (some x)) (hb : b.eval row = .ok (some y)) :
    (Condition.or a b).eval row = .ok (some (x || y)) := by
  rw [Condition.eval, ha, hb]
  exact congrArg Except.ok (Truth.or_some x y)

section Criteria

variable {row : Row} {column : Identifier} {field : String} {v : Value} {condition : Condition}

/-- A condition that is made false where it is unknown agrees with a `test` that is false there. -/
theorem agrees_orFalse {test : Except Mismatch Bool} {t : Truth}
    (heval : condition.eval row = .ok t) (htest : test = .ok (t.getD false)) :
    (Condition.orFalse condition).Agrees row test := by
  refine ⟨t.getD false, ?_, htest⟩
  rw [Condition.eval, heval]
  exact congrArg Except.ok (Truth.orFalse_eq t)

theorem compareCondition_agrees {comparison : Comparison} {op : Operator}
    (h : compareCondition column comparison field v = .ok condition) (hop : comparison.IsOf op)
    (hcell : v.isNull = false → (row column).Suits v) :
    condition.Agrees row (Criterion.compareWith op (row column).value v) := by
  obtain ⟨a, ha, rfl⟩ := map_eq_ok_iff.mp h
  obtain ⟨t, hcompare, hmatch⟩ := compareTo_eq hop (hcell (argument_ne_null ha)) ha
  exact agrees_orFalse hcompare hmatch

/-- A comparison with a null operand agrees with what its `nullTest` agrees with, and any other one
with `Criterion.compareWith`. -/
theorem compareOrNull_agrees {comparison : Comparison} {nullTest : Condition} {op : Operator}
    {test : Except Mismatch Bool} (hnull : nullTest.Agrees row test)
    (h : compareOrNull column comparison nullTest field v = .ok condition)
    (hop : comparison.IsOf op) (hcell : v.isNull = false → (row column).Suits v) :
    condition.Agrees row
      (if v.isNull then test else Criterion.compareWith op (row column).value v) := by
  unfold compareOrNull at h
  split at h
  · next hv =>
    cases h
    rw [if_pos hv]
    exact hnull
  · next hv =>
    rw [if_neg hv]
    exact compareCondition_agrees h hop hcell

theorem amongCondition_agrees {candidates : List Value}
    (h : amongCondition column field candidates = .ok condition)
    (hcell : ∀ v ∈ candidates, v.isNull = false → (row column).Suits v) :
    condition.Agrees row (Criterion.equalsAny (row column).value candidates) := by
  obtain ⟨arguments, hargs, h⟩ := bind_eq_ok_iff.mp h
  obtain ⟨t, hamong, hequals⟩ := equalsAny_eq_or hcell hargs
  rw [hequals]
  cases arguments with
  | nil =>
    cases hamong
    cases hnulls : candidates.any Value.isNull with
    | false =>
      rw [hnulls] at h
      cases h
      exact ⟨false, rfl, by rw [Bool.and_false]; rfl⟩
    | true =>
      rw [hnulls] at h
      cases h
      exact ⟨_, rfl, by rw [Bool.and_true, Option.getD_some, Bool.or_false]⟩
  | cons a rest =>
    have heval : (Condition.among column (a :: rest)).eval row = .ok t := hamong
    cases hnulls : candidates.any Value.isNull with
    | false =>
      rw [hnulls] at h
      cases h
      rw [Bool.and_false, Bool.false_or]
      exact agrees_orFalse heval rfl
    | true =>
      rw [hnulls] at h
      cases h
      rw [Bool.and_true]
      obtain ⟨b, hb, htest⟩ := agrees_orFalse heval rfl
      cases htest
      exact ⟨_, Condition.eval_or rfl hb, rfl⟩

theorem containsCondition_agrees {column : Column}
    (h : containsCondition column field v = .ok condition)
    (hcell : Suits column.kind (row column.name) ⟨field, .contains, some v⟩) :
    condition.Agrees row (Criterion.contains (row column.name).value v) := by
  unfold containsCondition at h
  unfold Suits at hcell
  cases hkind : column.kind with
  | array =>
    rw [hkind] at h hcell
    obtain ⟨a, ha, rfl⟩ := map_eq_ok_iff.mp h
    obtain ⟨t, heval, htest⟩ := anyElement_eq ha hcell
    exact agrees_orFalse heval htest
  | scalar =>
    rw [hkind] at h hcell
    cases v with
    | text s =>
      cases h
      obtain ⟨t, heval, htest⟩ := containsText_eq (hcell rfl)
      exact agrees_orFalse heval htest
    | _ => cases h

/-- The condition for an operand agrees with `Criterion.testOperand` wherever the column suits the
operand. -/
theorem operandCondition_agrees {column : Column} {op : Operator}
    (h : operandCondition column op field v = .ok condition)
    (hcell : Suits column.kind (row column.name) ⟨field, op, some v⟩) :
    condition.Agrees row (Criterion.testOperand op (row column.name).value v) := by
  have hnull : (row column.name).value.isNull = (row column.name).isNull := Cell.isNull_value _
  cases op with
  | eq => exact compareOrNull_agrees ⟨_, rfl, congrArg Except.ok hnull⟩ h Comparison.isOf_eq hcell
  | ne =>
    exact compareOrNull_agrees ⟨_, rfl, congrArg (fun b => Except.ok !b) hnull⟩ h
      Comparison.isOf_ne hcell
  | lt => exact compareCondition_agrees h Comparison.isOf_lt hcell
  | le => exact compareCondition_agrees h Comparison.isOf_le hcell
  | gt => exact compareCondition_agrees h Comparison.isOf_gt hcell
  | ge => exact compareCondition_agrees h Comparison.isOf_ge hcell
  | contains => exact containsCondition_agrees h hcell
  | startsWith =>
    cases v with
    | text s =>
      cases h
      obtain ⟨t, heval, htest⟩ := startsWith_eq (hcell rfl)
      exact agrees_orFalse heval htest
    | _ => cases h
  | isIn =>
    cases v with
    | list candidates => exact amongCondition_agrees h hcell
    | _ => cases h
  | isNull =>
    cases h
    exact ⟨_, rfl, congrArg Except.ok hnull⟩
  | isNotNull =>
    cases h
    exact ⟨_, rfl, congrArg (fun b => Except.ok !b) hnull⟩

variable (row) in
/-- The condition of `c` is about the column of its field, and agrees with the test of what the
column holds. -/
theorem criterionCondition_agrees {m : TableMapping} {c : Criterion}
    (h : criterionCondition m c = .ok condition) :
    ∃ column, m.columns.find? c.field = some column ∧
      (Suits column.kind (row column.name) c →
        condition.Agrees row (c.testValue (row column.name).value)) := by
  unfold criterionCondition at h
  split at h
  · cases h
  · cases hcolumn : m.columns.find? c.field with
    | none =>
      rw [TableMapping.resolve, hcolumn] at h
      cases h
    | some column =>
      rw [TableMapping.resolve, hcolumn] at h
      refine ⟨column, rfl, fun hcell => ?_⟩
      have hnull : (row column.name).value.isNull = (row column.name).isNull :=
        Cell.isNull_value _
      rcases c with ⟨field, op, _ | operand⟩
      · cases op with
        | isNull =>
          cases h
          exact ⟨_, rfl, congrArg Except.ok hnull⟩
        | isNotNull =>
          cases h
          exact ⟨_, rfl, congrArg (fun b => Except.ok !b) hnull⟩
        | _ => cases h
      · cases op with
        | isNull =>
          cases h
          exact ⟨_, rfl, congrArg Except.ok hnull⟩
        | isNotNull =>
          cases h
          exact ⟨_, rfl, congrArg (fun b => Except.ok !b) hnull⟩
        | _ => exact operandCondition_agrees h hcell

end Criteria

/-! ## Filters -/

/-- The `record` shows the `row` in the fields that `f` tests, and the columns of these hold what
the operands of `f` can be compared with. -/
def Presents {α : Type} [Record α] (m : TableMapping) (row : Row) (record : α) (f : Filter) :
    Prop :=
  ∀ c ∈ f.leaves, ∀ column, m.columns.find? c.field = some column →
    Record.field? record c.field = some (row column.name).value ∧
      Suits column.kind (row column.name) c

section Filters

variable {α : Type} [Record α] {m : TableMapping} {row : Row} {record : α}

/-- On every `row` that a `record` presents, the condition of `f` has the truth value of `f`. -/
theorem filterCondition_agrees {f : Filter} {condition : Condition}
    (h : filterCondition m f = .ok condition) (hrow : Presents m row record f) :
    ∃ b, condition.eval row = .ok (some b) ∧ f.evaluate record = .ok b := by
  induction f generalizing condition with
  | const b =>
    cases h
    exact ⟨b, rfl, rfl⟩
  | leaf c =>
    obtain ⟨column, hcolumn, hagrees⟩ := criterionCondition_agrees row h
    obtain ⟨hfield, hsuits⟩ := hrow c (List.mem_singleton.mpr rfl) column hcolumn
    obtain ⟨b, heval, htest⟩ := hagrees hsuits
    refine ⟨b, heval, ?_⟩
    show c.evaluate record = _
    rw [Criterion.evaluate, hfield]
    exact congrArg (Except.mapError _) htest
  | and f g ihf ihg =>
    obtain ⟨a, ha, h⟩ := bind_eq_ok_iff.mp h
    obtain ⟨b, hb, h⟩ := bind_eq_ok_iff.mp h
    cases h
    obtain ⟨x, hx, hfx⟩ := ihf ha fun c hc => hrow c (List.mem_append_left _ hc)
    obtain ⟨y, hy, hgy⟩ := ihg hb fun c hc => hrow c (List.mem_append_right _ hc)
    refine ⟨x && y, Condition.eval_and hx hy, ?_⟩
    unfold Filter.evaluate at hfx hgy ⊢
    rw [Formula.eval, hfx]
    cases x with
    | false => rfl
    | true => exact hgy
  | or f g ihf ihg =>
    obtain ⟨a, ha, h⟩ := bind_eq_ok_iff.mp h
    obtain ⟨b, hb, h⟩ := bind_eq_ok_iff.mp h
    cases h
    obtain ⟨x, hx, hfx⟩ := ihf ha fun c hc => hrow c (List.mem_append_left _ hc)
    obtain ⟨y, hy, hgy⟩ := ihg hb fun c hc => hrow c (List.mem_append_right _ hc)
    refine ⟨x || y, Condition.eval_or hx hy, ?_⟩
    unfold Filter.evaluate at hfx hgy ⊢
    rw [Formula.eval, hfx]
    cases x with
    | false => exact hgy
    | true => rfl
  | not f ih =>
    obtain ⟨a, ha, rfl⟩ := map_eq_ok_iff.mp h
    obtain ⟨x, hx, hfx⟩ := ih ha hrow
    refine ⟨!x, Condition.eval_not hx, ?_⟩
    unfold Filter.evaluate at hfx ⊢
    rw [Formula.eval, hfx]
    rfl

/-- A statement for `f`, be it a selection or a count, has the condition of `f`. -/
theorem condition_of_statement {f : Filter} {s : Statement}
    (h : count m f = .ok s ∨ ∃ order range, select m f order range = .ok s) :
    filterCondition m f = .ok s.condition := by
  rcases h with h | ⟨order, range, h⟩
  · obtain ⟨condition, hcondition, rfl⟩ := map_eq_ok_iff.mp h
    exact hcondition
  · obtain ⟨condition, hcondition, h⟩ := bind_eq_ok_iff.mp h
    obtain ⟨rowOrder, -, h⟩ := bind_eq_ok_iff.mp h
    obtain ⟨rowLimit, -, h⟩ := bind_eq_ok_iff.mp h
    cases h
    exact hcondition

/-- On each `row` that a `record` presents, the clause of a statement for `f` has just the truth
value that `f` has in memory. Both are known. The clause stands in the text of the statement and is
evaluated with the arguments that go with the text. -/
theorem where_clause_agrees {f : Filter} {s : Statement}
    (h : count m f = .ok s ∨ ∃ order range, select m f order range = .ok s)
    (hrow : Presents m row record f) :
    s.text = s.head ++ s.clause.text ++ s.tail ∧
      ∃ b, f.evaluate record = .ok b ∧ s.clause.eval row s.arguments = .ok (some b) := by
  obtain ⟨b, heval, hfilter⟩ := filterCondition_agrees (condition_of_statement h) hrow
  exact ⟨s.text_eq, b, hfilter, (s.eval_clause row).trans heval⟩

/-- An array with a null element does not contain a text that is none of the others. -/
theorem where_clause_agrees_null_element :
    let tags : Column := ⟨⟨"tags", by decide⟩, .array⟩
    let m : TableMapping := ⟨⟨[⟨"people", by decide⟩]⟩, TableMapping.defaultKey,
      SortedMap.empty.insert "tags" tags⟩
    let f : Filter := .not (.leaf (Criterion.binary .contains "tags" (.text "vip")))
    let s : Statement := .count m.table (.not (.orFalse (.anyElement tags.name (.text "vip"))))
    let row : Row := fun _ => .array [none, some (.text "new")]
    let record : List (String × Value) := [("tags", .list [.null, .text "new"])]
    (count m f = .ok s ∧ Presents m row record f) ∧
      s.text = s.head ++ s.clause.text ++ s.tail ∧
      ∃ b, f.evaluate record = .ok b ∧ s.clause.eval row s.arguments = .ok (some b) := by
  intro tags m f s row record
  have hcount : count m f = .ok s := rfl
  have hrow : Presents m row record f := by
    intro c hc column hcolumn
    rw [List.mem_singleton.mp hc] at hcolumn ⊢
    cases hcolumn
    refine ⟨rfl, fun v hv => ?_⟩
    rcases List.mem_cons.mp hv with h | h
    · cases h
    · cases List.mem_singleton.mp h
      trivial
  exact ⟨⟨hcount, hrow⟩, where_clause_agrees (Or.inl hcount) hrow⟩

end Filters

end Quarry.Sql
