import Quarry.Proofs.Except
import Quarry.Sql.Query
import Mathlib.Data.List.Forall2

/-!
# Texts without operands

Whoever chooses the operands of a filter does not choose a character of the statement that is made
of it. Two filters that differ only in what their operands hold, and not in the types of these, are
turned into statements with one text, or are both refused with one error (`text_ignores_operands`).

The two runs are followed side by side. Wherever a value is looked at, its type decides; two
conditions that come of this have the same fragments but for the arguments of their placeholders
(`Condition.SameText`).
-/

namespace Quarry

/-! ## Filters that differ in what their operands hold -/

/-- The values `v` and `w` are of one type. -/
def Value.SameType (v w : Value) : Prop :=
  v.type = w.type

/-- The values `v` and `w` are of one type. If they are lists, they have as many items, and the
items are of one type at each place. -/
structure Value.Alike (v w : Value) : Prop where
  type : v.SameType w
  items : Option.Rel (List.Forall₂ Value.SameType) v.items? w.items?

/-- The criteria `c` and `d` test one field by one operator, with operands that are alike. -/
structure Criterion.Alike (c d : Criterion) : Prop where
  field : c.field = d.field
  op : c.op = d.op
  operand : Option.Rel Value.Alike c.operand d.operand

/-- The formulas have one shape, with leaves related by `R` at the same places. -/
inductive Formula.SameShape {ι κ : Type} (R : ι → κ → Prop) : Formula ι → Formula κ → Prop
  | const (b : Bool) : SameShape R (.const b) (.const b)
  | leaf {l : ι} {k : κ} (related : R l k) : SameShape R (.leaf l) (.leaf k)
  | and {a b : Formula ι} {a' b' : Formula κ} (left : SameShape R a a') (right : SameShape R b b') :
    SameShape R (.and a b) (.and a' b')
  | or {a b : Formula ι} {a' b' : Formula κ} (left : SameShape R a a') (right : SameShape R b b') :
    SameShape R (.or a b) (.or a' b')
  | not {a : Formula ι} {a' : Formula κ} (inner : SameShape R a a') : SameShape R (.not a) (.not a')

/-- The numbers of `r` fit into a statement where those of `s` do. -/
structure RowRange.Alike (r s : RowRange) : Prop where
  take : r.take < 2 ^ 63 ↔ s.take < 2 ^ 63
  skip : r.skip < 2 ^ 63 ↔ s.skip < 2 ^ 63

theorem Value.SameType.isNull {v w : Value} (h : v.SameType w) : v.isNull = w.isNull := by
  cases v <;> cases w <;> first | rfl | cases h

theorem isNone_eq_of_rel {α β : Type} {R : α → β → Prop} {a : Option α} {b : Option β}
    (h : Option.Rel R a b) : a.isNone = b.isNone := by
  cases h <;> rfl

/-- The check of a criterion looks at no more of its operand than `Value.Alike` keeps. -/
theorem Criterion.Alike.validate {c d : Criterion} (h : c.Alike d) : c.validate = d.validate := by
  obtain ⟨field, op, operand⟩ := c
  obtain ⟨field', op', operand'⟩ := d
  obtain ⟨rfl, rfl, hoperand⟩ := h
  cases hoperand with
  | none => rfl
  | @some v w hv =>
    have htype : v.type = w.type := hv.type
    unfold Criterion.validate
    dsimp only
    rw [htype, isNone_eq_of_rel hv.items, hv.type.isNull]

namespace Sql

/-! ## Fragments that differ in arguments -/

/-- The fragments are the same but for the argument of a `placeholder`. -/
inductive Fragment.SameText : Fragment → Fragment → Prop
  | words (s : String) : SameText (.words s) (.words s)
  | name (i : Identifier) : SameText (.name i) (.name i)
  | placeholder (a b : Argument) : SameText (.placeholder a) (.placeholder b)

/-- The lists have the same fragments, one by one, but for the arguments of the placeholders. -/
abbrev SameFragments : List Fragment → List Fragment → Prop :=
  List.Forall₂ Fragment.SameText

/-- Fragments that differ in arguments only write the same text, numbered on from `n`. -/
theorem SameFragments.textFrom_eq {fs gs : List Fragment} (h : SameFragments fs gs) (n : Nat) :
    textFrom n fs = textFrom n gs := by
  induction h generalizing n with
  | nil => rfl
  | cons hfirst _ ih =>
    cases hfirst with
    | words s => rw [textFrom, textFrom, ih]
    | name i => rw [textFrom, textFrom, ih]
    | placeholder a b => rw [textFrom, textFrom, ih]

theorem SameFragments.refl (fs : List Fragment) : SameFragments fs fs := by
  induction fs with
  | nil => exact .nil
  | cons f fs ih =>
    refine .cons ?_ ih
    cases f with
    | words s => exact .words s
    | name i => exact .name i
    | placeholder a => exact .placeholder a a

theorem SameFragments.append {fs gs fs' gs' : List Fragment} (h : SameFragments fs gs)
    (h' : SameFragments fs' gs') : SameFragments (fs ++ fs') (gs ++ gs') :=
  List.rel_append h h'

theorem sameFragments_placeholders {as bs : List Argument} (h : as.length = bs.length) :
    SameFragments (placeholders as) (placeholders bs) := by
  induction as generalizing bs with
  | nil =>
    rw [List.length_eq_zero_iff.mp h.symm]
    exact .nil
  | cons a as ih =>
    cases bs with
    | nil => cases h
    | cons b bs =>
      have hrest := ih (Nat.succ.inj h)
      cases as with
      | nil =>
        rw [List.length_eq_zero_iff.mp (Nat.succ.inj h).symm]
        exact .cons (.placeholder a b) .nil
      | cons a' as =>
        cases bs with
        | nil => cases h
        | cons b' bs => exact .cons (.placeholder a b) (.cons (.words _) hrest)

namespace Condition

/-- The conditions `a` and `b` write the same text, whatever their arguments are. -/
def SameText (a b : Condition) : Prop :=
  SameFragments a.fragments b.fragments

variable {a b a' b' : Condition}

theorem SameText.refl (c : Condition) : c.SameText c :=
  SameFragments.refl c.fragments

theorem SameText.orFalse (h : a.SameText b) : (orFalse a).SameText (orFalse b) :=
  SameFragments.append (.cons (.words _) h) (.refl _)

theorem SameText.and (h : a.SameText b) (h' : a'.SameText b') : (and a a').SameText (and b b') :=
  SameFragments.append (.append (.cons (.words _) h) (.cons (.words _) h')) (.refl _)

theorem SameText.or (h : a.SameText b) (h' : a'.SameText b') : (or a a').SameText (or b b') :=
  SameFragments.append (.append (.cons (.words _) h) (.cons (.words _) h')) (.refl _)

theorem SameText.not (h : a.SameText b) : (not a).SameText (not b) :=
  SameFragments.append (.cons (.words _) h) (.refl _)

theorem sameText_compare (column : Identifier) (comparison : Comparison) (a b : Argument) :
    (compare column comparison a).SameText (compare column comparison b) :=
  .cons (.name _) (.cons (.words _) (.cons (.placeholder a b) .nil))

theorem sameText_anyElement (column : Identifier) (a b : Argument) :
    (anyElement column a).SameText (anyElement column b) :=
  .cons (.placeholder a b) (SameFragments.refl _)

theorem sameText_containsText (column : Identifier) (s t : String) :
    (containsText column s).SameText (containsText column t) :=
  .cons (.words _) (.cons (.name _) (.cons (.words _) (.cons (.placeholder _ _)
    (SameFragments.refl _))))

theorem sameText_startsWith (column : Identifier) (s t : String) :
    (startsWith column s).SameText (startsWith column t) :=
  .cons (.words _) (.cons (.name _) (.cons (.words _) (.cons (.placeholder _ _)
    (SameFragments.refl _))))

theorem sameText_among (column : Identifier) {as bs : List Argument} (h : as.length = bs.length) :
    (among column as).SameText (among column bs) :=
  SameFragments.append (.cons (.name _) (.cons (.words _) (sameFragments_placeholders h))) (.refl _)

end Condition

/-! ## Operands -/

section Operands

variable (column : Identifier) (field : String)

theorem argument_alike {v w : Value} (h : v.SameType w) :
    SameOutcome (fun _ _ => True) (argument field v) (argument field w) := by
  cases v <;> cases w <;> first | exact .ok trivial | exact .error _ | cases h

theorem textArgument_alike (op : Operator) {v w : Value} (h : v.SameType w) :
    SameOutcome (fun _ _ => True) (textArgument op field v) (textArgument op field w) := by
  cases v <;> cases w <;> first | exact .ok trivial | exact .error _ | cases h

theorem compareCondition_alike (comparison : Comparison) {v w : Value} (h : v.SameType w) :
    SameOutcome Condition.SameText (compareCondition column comparison field v)
      (compareCondition column comparison field w) :=
  (argument_alike field h).map fun a b _ =>
    (Condition.sameText_compare column comparison a b).orFalse

/-- Whether the operand of `compareOrNull` is null is a question of its type. -/
theorem compareOrNull_alike (comparison : Comparison) (nullTest : Condition) {v w : Value}
    (h : v.SameType w) :
    SameOutcome Condition.SameText (compareOrNull column comparison nullTest field v)
      (compareOrNull column comparison nullTest field w) := by
  unfold compareOrNull
  rw [h.isNull]
  split
  · exact .ok (.refl _)
  · exact compareCondition_alike column field comparison h

theorem containsCondition_alike (column : Column) {v w : Value} (h : v.SameType w) :
    SameOutcome Condition.SameText (containsCondition column field v)
      (containsCondition column field w) := by
  unfold containsCondition
  cases column.kind with
  | array =>
    exact (argument_alike field h).map fun a b _ =>
      (Condition.sameText_anyElement column.name a b).orFalse
  | scalar =>
    exact (textArgument_alike field .contains h).map fun s t _ =>
      (Condition.sameText_containsText column.name s t).orFalse

/-! ### Candidates -/

variable {vs ws : List Value}

theorem any_isNull_alike (h : List.Forall₂ Value.SameType vs ws) :
    vs.any Value.isNull = ws.any Value.isNull := by
  induction h with
  | nil => rfl
  | cons hv _ ih => rw [List.any_cons, List.any_cons, hv.isNull, ih]

/-- As many candidates become arguments, or the first ones that cannot become one are of the same
type. -/
theorem mapM_argument_alike (h : List.Forall₂ Value.SameType vs ws) :
    SameOutcome (fun as bs => as.length = bs.length) (vs.mapM (argument field))
      (ws.mapM (argument field)) := by
  induction h with
  | nil => exact .ok rfl
  | cons hv _ ih =>
    rw [List.mapM_cons, List.mapM_cons]
    refine (argument_alike field hv).bind fun a b _ => ih.bind fun as bs hlength => ?_
    exact .ok (congrArg (· + 1) hlength)

theorem filter_notNull_alike (h : List.Forall₂ Value.SameType vs ws) :
    List.Forall₂ Value.SameType (vs.filter fun v => !v.isNull)
      (ws.filter fun w => !w.isNull) :=
  List.rel_filter (fun v w hv => by
    show (!v.isNull) = true ↔ (!w.isNull) = true
    rw [hv.isNull]) h

theorem amongCondition_alike (h : List.Forall₂ Value.SameType vs ws) :
    SameOutcome Condition.SameText (amongCondition column field vs)
      (amongCondition column field ws) := by
  unfold amongCondition
  rw [any_isNull_alike h]
  refine (mapM_argument_alike field (filter_notNull_alike h)).bind fun as bs hlength => .ok ?_
  have hamong := (Condition.sameText_among column hlength).orFalse
  have hempty : as.isEmpty = bs.isEmpty := by
    rw [Bool.eq_iff_iff, List.isEmpty_iff_length_eq_zero, List.isEmpty_iff_length_eq_zero, hlength]
  rw [hempty]
  cases bs.isEmpty <;> cases ws.any Value.isNull
  · exact hamong
  · exact (Condition.SameText.refl _).or hamong
  · exact .refl _
  · exact .refl _

/-! ## Criteria and filters -/

/-- Conditions for operands that are alike write the same text, or fail with the same error. -/
theorem operandCondition_alike (column : Column) (op : Operator) {v w : Value} (h : v.Alike w) :
    SameOutcome Condition.SameText (operandCondition column op field v)
      (operandCondition column op field w) := by
  cases op with
  | eq | ne => exact compareOrNull_alike column.name field _ _ h.type
  | lt | le | gt | ge => exact compareCondition_alike column.name field _ h.type
  | contains => exact containsCondition_alike field column h.type
  | startsWith =>
    exact (textArgument_alike field .startsWith h.type).map fun s t _ =>
      (Condition.sameText_startsWith column.name s t).orFalse
  | isIn =>
    obtain ⟨htype, hitems⟩ := h
    cases v <;> cases w <;> first | exact .error _ | cases htype
    cases hitems with
    | some hall => exact amongCondition_alike column.name field hall
  | isNull => exact .ok (.refl _)
  | isNotNull => exact .ok (.refl _)

end Operands

section Statements

variable (m : TableMapping)

/-- Criteria that are alike have conditions with the same text, or the same error. -/
theorem criterionCondition_alike {c d : Criterion} (h : c.Alike d) :
    SameOutcome Condition.SameText (criterionCondition m c) (criterionCondition m d) := by
  unfold criterionCondition
  rw [h.validate, h.field]
  cases d.validate with
  | error e => exact .error _
  | ok _ =>
    cases m.resolve d.field with
    | error e => exact .error _
    | ok column =>
      obtain ⟨field, op, operand⟩ := c
      obtain ⟨field', op', operand'⟩ := d
      obtain ⟨rfl, rfl, hoperand⟩ := h
      cases hoperand with
      | none =>
        cases op with
        | isNull | isNotNull => exact .ok (.refl _)
        | _ => exact .error _
      | some hv =>
        cases op with
        | isNull | isNotNull => exact .ok (.refl _)
        | _ => exact operandCondition_alike field column _ hv

/-- Filters of one shape, with leaves that are alike, have conditions with the same text, or the
same error. -/
theorem filterCondition_alike {f g : Filter} (h : f.SameShape Criterion.Alike g) :
    SameOutcome Condition.SameText (filterCondition m f) (filterCondition m g) := by
  induction h with
  | const b => exact .ok (.refl _)
  | leaf related => exact criterionCondition_alike m related
  | and _ _ ihleft ihright =>
    exact ihleft.bind fun a b hab => ihright.bind fun a' b' hab' => .ok (hab.and hab')
  | or _ _ ihleft ihright =>
    exact ihleft.bind fun a b hab => ihright.bind fun a' b' hab' => .ok (hab.or hab')
  | not _ ih => exact ih.map fun a b hab => hab.not

/-! ## Statements -/

theorem rowCount_alike {n k : Nat} (h : n < 2 ^ 63 ↔ k < 2 ^ 63) (fault : QueryError) :
    SameOutcome (fun _ _ => True) (rowCount n fault) (rowCount k fault) := by
  unfold rowCount
  by_cases hn : n < 2 ^ 63
  · rw [if_pos hn, if_pos (h.mp hn)]
    exact .ok trivial
  · rw [if_neg hn, if_neg (mt h.mpr hn)]
    exact .error _

theorem rowLimit_alike {r r' : RowRange} (h : r.Alike r') :
    SameOutcome (fun _ _ => True) (rowLimit r) (rowLimit r') :=
  (rowCount_alike h.take _).bind fun _ _ _ =>
    (rowCount_alike h.skip _).bind fun _ _ _ => .ok trivial

theorem limitFragments_alike {range range' : Option RowRange}
    (h : Option.Rel RowRange.Alike range range') :
    SameOutcome (fun l l' => SameFragments (limitFragments l) (limitFragments l'))
      (forOption rowLimit range) (forOption rowLimit range') := by
  cases h with
  | none => exact .ok .nil
  | some hr =>
    refine (rowLimit_alike hr).map fun l l' _ => ?_
    exact .cons (.words _) (.cons (.placeholder _ _)
      (.cons (.words _) (.cons (.placeholder _ _) .nil)))

/-- The statements `s` and `t` write the same text, whatever their arguments are. -/
def Statement.SameText (s t : Statement) : Prop :=
  SameFragments s.fragments t.fragments

theorem Statement.SameText.text_eq {s t : Statement} (h : s.SameText t) : s.text = t.text :=
  SameFragments.textFrom_eq h 1

theorem sameText_select (order : Option RowOrder) {a b : Condition} (hcondition : a.SameText b)
    {l l' : Option RowLimit} (hlimit : SameFragments (limitFragments l) (limitFragments l')) :
    (Statement.select m.table a order m.key l).SameText
      (Statement.select m.table b order m.key l') :=
  SameFragments.append (.append (.append (.refl _) (.cons (.words _) hcondition)) (.refl _)) hlimit

theorem sameText_count {a b : Condition} (hcondition : a.SameText b) :
    (Statement.count m.table a).SameText (Statement.count m.table b) :=
  SameFragments.append (.refl _) (.cons (.words _) hcondition)

/-- Selections whose filters and ranges are alike write the same text, or fail with the same error.
-/
theorem select_alike {f g : Filter} (hfilter : f.SameShape Criterion.Alike g)
    {range range' : Option RowRange} (hrange : Option.Rel RowRange.Alike range range')
    (order : Option FieldOrder) :
    SameOutcome Statement.SameText (select m f order range) (select m g order range') := by
  refine (filterCondition_alike m hfilter).bind fun a b hcondition => ?_
  cases forOption (rowOrder m) order with
  | error e => exact .error e
  | ok rowOrder =>
    exact (limitFragments_alike hrange).bind fun l l' hlimit =>
      .ok (sameText_select m rowOrder hcondition hlimit)

theorem count_alike {f g : Filter} (hfilter : f.SameShape Criterion.Alike g) :
    SameOutcome Statement.SameText (count m f) (count m g) :=
  (filterCondition_alike m hfilter).map fun _ _ hcondition => sameText_count m hcondition

/-- The text of a statement, or the error for which there is none, does not depend on what the
operands of `f` and the numbers of the `range` are: it is the same for any `g` and `range'` that are
alike. -/
theorem text_ignores_operands {f g : Filter} (hfilter : f.SameShape Criterion.Alike g)
    {range range' : Option RowRange} (hrange : Option.Rel RowRange.Alike range range')
    (order : Option FieldOrder) :
    (select m f order range).map Statement.text = (select m g order range').map Statement.text ∧
      (count m f).map Statement.text = (count m g).map Statement.text := by
  constructor
  · exact (select_alike m hfilter hrange order).map_eq fun _ _ h => h.text_eq
  · exact (count_alike m hfilter).map_eq fun _ _ h => h.text_eq

/-- A text that ends a quoted text of SQL and an empty one make the same statement. -/
theorem text_ignores_operands_quote :
    let name : Column := ⟨⟨"name", by decide⟩, .scalar⟩
    let m : TableMapping := ⟨⟨[⟨"people", by decide⟩]⟩, TableMapping.defaultKey,
      SortedMap.empty.insert "name" name⟩
    let f : Filter := .or (.leaf (.among "name" [.text "'; DROP TABLE people; --", .null]))
      (.not (.leaf (.binary .contains "name" (.text "$1"))))
    let g : Filter := .or (.leaf (.among "name" [.text "", .null]))
      (.not (.leaf (.binary .contains "name" (.text "Ada"))))
    (f.SameShape Criterion.Alike g ∧
      Option.Rel RowRange.Alike (some ⟨0, 10⟩) (some ⟨20, 5⟩)) ∧
      (select m f none (some ⟨0, 10⟩)).map Statement.text =
        (select m g none (some ⟨20, 5⟩)).map Statement.text ∧
      (count m f).map Statement.text = (count m g).map Statement.text := by
  intro name m f g
  have hshape : f.SameShape Criterion.Alike g := by
    refine .or (.leaf ⟨rfl, rfl, .some ⟨rfl, .some (.cons rfl (.cons rfl .nil))⟩⟩) (.not (.leaf ?_))
    exact ⟨rfl, rfl, .some ⟨rfl, .none⟩⟩
  have hrange : Option.Rel RowRange.Alike (some ⟨0, 10⟩) (some ⟨20, 5⟩) :=
    .some ⟨by decide, by decide⟩
  exact ⟨⟨hshape, hrange⟩, text_ignores_operands m hshape hrange none⟩

end Statements

end Sql

end Quarry
