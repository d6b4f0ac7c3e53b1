import Mathlib.Data.List.Pairwise
import Quarry.Proofs.Ordering
import Quarry.Proofs.Sql.Placeholders
import Quarry.Proofs.Sql.Sorting
import Quarry.Specification.Paged

/-!
# What a sorting and a range mean to the database

A statement with a sorting by a field sorts rows by the column of the field and then by their keys.
Sorting in memory is stable, so that rows that come in the order of their keys are sorted in the
same way (`Statement.IsListing.pairwise_inOrder`). The nulls are put where they stand in memory, and
values of one type are in the same order on both sides (`order?_sortKey`), except floating-point
numbers: in memory these are sorted by their bit patterns.

Different keys leave only one way to sort the rows (`Statement.IsListing.sorted_unique`), and the
numbers that the cut is made with are those of the range (`Statement.cutTo?_cutoff`). So the rows
that the database gives are the page that is found in memory.
-/

namespace Quarry.Sql

/-! ## The order of cells -/

/-- The cell is `null` or holds a value of the `type`. -/
def Cell.SortsAs (type : ValueType) : Cell → Prop
  | .null => True
  | .scalar s => s.value.type = type
  | .array _ => False

/-- Values `s` and `t` of one type sort in the same way on both sides, but for floating-point
numbers. -/
theorem Scalar.order?_eq {s t : Scalar} (h : s.value.type = t.value.type)
    (hfloat : s.value.type ≠ .float) : s.order? t = some (s.value.sortCompare t.value) := by
  cases s with
  | bool a =>
    cases t with
    | bool b => rfl
    | _ => cases h
  | int a =>
    cases t with
    | int b => rfl
    | _ => cases h
  | float x => exact absurd rfl hfloat
  | uuid u =>
    cases t with
    | uuid v => rfl
    | _ => cases h
  | timestamp a =>
    cases t with
    | timestamp b =>
      have hcompare := Timestamp.compare_ofMicros a (Timestamp.isWholeMicros_ofMicros b)
      rw [Timestamp.microsSince2000_ofMicros] at hcompare
      exact congrArg some hcompare.symm
    | _ => cases h
  | text s =>
    cases t with
    | text t => exact congrArg some (textOrder_eq s t)
    | _ => cases h

theorem Scalar.sortCompare_null (s : Scalar) :
    Value.null.sortCompare s.value = .lt ∧ s.value.sortCompare .null = .gt := by
  cases s with
  | _ => exact ⟨rfl, rfl⟩

/-- With nulls where `RowOrder.sortKey` puts them, cells sort like the values of fields in the
direction `d`. -/
theorem order?_sortKey (column : Identifier) (d : SortDirection) {type : ValueType}
    (hfloat : type ≠ .float) {x y : Cell} (hx : x.SortsAs type) (hy : y.SortsAs type) :
    (RowOrder.sortKey ⟨column, d = .descending⟩).order? x y =
      some (d.compareKeys x.value y.value) := by
  cases x with
  | array elements => exact hx.elim
  | null =>
    cases y with
    | array elements => exact hy.elim
    | null => cases d <;> rfl
    | scalar t =>
      obtain ⟨hlt, hgt⟩ := t.sortCompare_null
      cases d with
      | ascending => exact congrArg some hlt.symm
      | descending => exact congrArg some hgt.symm
  | scalar s =>
    cases y with
    | array elements => exact hy.elim
    | null =>
      obtain ⟨hlt, hgt⟩ := s.sortCompare_null
      cases d with
      | ascending => exact congrArg some hgt.symm
      | descending => exact congrArg some hlt.symm
    | scalar t =>
      have htypes : s.value.type = t.value.type := Eq.trans hx (Eq.symm hy)
      have hs : s.value.type ≠ .float := fun h => hfloat (Eq.trans (Eq.symm hx) h)
      cases d with
      | ascending => exact Scalar.order?_eq htypes hs
      | descending => exact Scalar.order?_eq htypes.symm (htypes ▸ hs)

theorem floatOrder_swap (x y : Binary64) : floatOrder y x = (floatOrder x y).swap := by
  unfold floatOrder Binary64.partialCompare
  rw [Bool.or_comm y.isNaN]
  cases x.isNaN || y.isNaN with
  | true =>
    show compare y.isNaN x.isNaN = (compare x.isNaN y.isNaN).swap
    exact Std.OrientedCmp.eq_swap
  | false =>
    show compare y.scaled x.scaled = (compare x.scaled y.scaled).swap
    exact Std.OrientedCmp.eq_swap

theorem Scalar.order?_swap (s t : Scalar) : t.order? s = (s.order? t).map Ordering.swap := by
  cases s with
  | bool a =>
    cases t with
    | bool b => exact congrArg some Std.OrientedCmp.eq_swap
    | _ => rfl
  | int a =>
    cases t with
    | int b => exact congrArg some Std.OrientedCmp.eq_swap
    | _ => rfl
  | float x =>
    cases t with
    | float y => exact congrArg some (floatOrder_swap x y)
    | _ => rfl
  | uuid u =>
    cases t with
    | uuid v => exact congrArg some Std.OrientedCmp.eq_swap
    | _ => rfl
  | timestamp a =>
    cases t with
    | timestamp b => exact congrArg some Std.OrientedCmp.eq_swap
    | _ => rfl
  | text s =>
    cases t with
    | text t =>
      rw [order?, order?, textOrder_eq, textOrder_eq]
      exact congrArg some Std.OrientedCmp.eq_swap
    | _ => rfl

/-! ## The order of rows -/

/-- The `key` of the row `r` is smaller than that of `r'`, and neither is null. -/
def KeyPrecedes (key : Identifier) (r r' : Row) : Prop :=
  ∃ k l, r key = .scalar k ∧ r' key = .scalar l ∧ k.order? l = some .lt

theorem KeyPrecedes.order? {key : Identifier} {r r' : Row} (h : KeyPrecedes key r r') :
    SortKey.order? ⟨key, false, none⟩ (r key) (r' key) = some .lt ∧
      SortKey.order? ⟨key, false, none⟩ (r' key) (r key) = some .gt := by
  obtain ⟨k, l, hk, hl, hlt⟩ := h
  rw [hk, hl]
  refine ⟨hlt, ?_⟩
  show l.order? k = some .gt
  rw [k.order?_swap l, hlt]
  rfl

/-- Rows are sorted by the `column` in the direction `d`, and then upward by the `key`. -/
def SortKey.byColumn (column : Identifier) (d : SortDirection) (key : Identifier) : List SortKey :=
  [RowOrder.sortKey ⟨column, d = .descending⟩, ⟨key, false, none⟩]

namespace Statement

variable {α : Type} {s : Statement} {view : α → Row} {column key : Identifier} {d : SortDirection}
  {table rows : List α}

/-- The `rows` are those of the `table` for which the clause of `s` holds. They are listed by
ascending values of `key`, and their `column` has nulls and values of one type. -/
structure IsListing (s : Statement) (view : α → Row) (column key : Identifier)
    (table rows : List α) : Prop where
  evaluated : ∀ a ∈ table, ∃ t, s.clause.eval (view a) s.arguments = .ok t
  selected : rows.Perm (table.filter (s.passes view))
  ascending : rows.Pairwise fun a b => KeyPrecedes key (view a) (view b)
  /-- Floating-point numbers are sorted in another way in memory. -/
  oneType : ∃ type, type ≠ ValueType.float ∧ ∀ a ∈ rows, (view a column).SortsAs type

/-- The `column` decides the order of two rows, and the `key` does where the column leaves them
equal. -/
theorem inOrder_iff (hs : s.sortKeys = SortKey.byColumn column d key) {type : ValueType}
    (hfloat : type ≠ .float) {a b : α} (ha : (view a column).SortsAs type)
    (hb : (view b column).SortsAs type) :
    s.InOrder view a b ↔
      d.compareKeys (view a column).value (view b column).value = .lt ∨
        d.compareKeys (view a column).value (view b column).value = .eq ∧
          ∃ o, SortKey.order? ⟨key, false, none⟩ (view a key) (view b key) = some o ∧
            o.isLE = true := by
  have hcolumn := order?_sortKey column d hfloat ha hb
  rw [InOrder, hs, SortKey.byColumn, SortKey.rowOrder?]
  dsimp only [RowOrder.sortKey] at hcolumn ⊢
  rw [hcolumn]
  cases d.compareKeys (view a column).value (view b column).value with
  | lt => simp
  | eq =>
    simp only [SortKey.rowOrder?]
    cases SortKey.order? ⟨key, false, none⟩ (view a key) (view b key) with
    | none => simp
    | some o => cases o <;> simp
  | gt => simp

theorem not_inOrder_of_inOrder (hs : s.sortKeys = SortKey.byColumn column d key)
    {type : ValueType} (hfloat : type ≠ .float) {a b : α} (ha : (view a column).SortsAs type)
    (hb : (view b column).SortsAs type) (hkeys : KeyPrecedes key (view a) (view b))
    (hab : s.InOrder view a b) : ¬ s.InOrder view b a := by
  have hswap : d.compareKeys (view b column).value (view a column).value =
    (d.compareKeys (view a column).value (view b column).value).swap := Std.OrientedCmp.eq_swap
  rw [inOrder_iff hs hfloat ha hb] at hab
  rw [inOrder_iff hs hfloat hb ha, hswap]
  rcases hab with hlt | ⟨heq, -⟩
  · rw [hlt]
    simp
  · rw [heq, hkeys.order?.2]
    simp

section Listings

variable (h : s.IsListing view column key table rows)
  (hs : s.sortKeys = SortKey.byColumn column d key)

include h hs

/-- Two rows of a listing that are in order both ways round are the same. -/
theorem IsListing.inOrder_antisymm {a b : α} (ha : a ∈ rows) (hb : b ∈ rows)
    (hab : s.InOrder view a b) (hba : s.InOrder view b a) : a = b := by
  obtain ⟨type, hfloat, hcells⟩ := h.oneType
  let Apart (a b : α) := KeyPrecedes key (view a) (view b) ∨ KeyPrecedes key (view b) (view a)
  have hsymm : Std.Symm Apart := ⟨fun _ _ => Or.symm⟩
  have hapart : rows.Pairwise Apart := h.ascending.imp Or.inl
  by_contra hne
  rcases hapart.forall ha hb hne with hlt | hgt
  · exact not_inOrder_of_inOrder hs hfloat (hcells a ha) (hcells b hb) hlt hab hba
  · exact not_inOrder_of_inOrder hs hfloat (hcells b hb) (hcells a ha) hgt hba hab

/-- A stable sort of the listing by the values of the column has the rows in the order of the
statement `s`. -/
theorem IsListing.pairwise_inOrder {order : OrderBy α} (hdirection : order.direction = d)
    (hvalues : ∀ a ∈ rows, order.key a = .ok (view a column).value) {sorted : List α}
    (hsorted : order.IsStableSort rows sorted) : sorted.Pairwise (s.InOrder view) := by
  obtain ⟨type, hfloat, hcells⟩ := h.oneType
  refine (hsorted.pairwise_lex h.ascending).imp_of_mem ?_
  rintro a b ha hb ⟨k, l, hk, hl, hkeys⟩
  have ha := hsorted.perm.mem_iff.mp ha
  have hb := hsorted.perm.mem_iff.mp hb
  cases (hvalues a ha).symm.trans hk
  cases (hvalues b hb).symm.trans hl
  rw [hdirection] at hkeys
  rw [inOrder_iff hs hfloat (hcells a ha) (hcells b hb)]
  rcases hkeys with hlt | ⟨heq, hprecedes⟩
  · exact Or.inl hlt
  · rw [heq]
    exact Or.inr ⟨Std.ReflCmp.compare_self, .lt, hprecedes.order?.1, rfl⟩

/-- Sorted as the statement `s` wants them, the rows of a listing have only one arrangement. -/
theorem IsListing.sorted_unique {as bs : List α} (has : as.Perm rows) (hbs : bs.Perm rows)
    (hasorted : as.Pairwise (s.InOrder view)) (hbsorted : bs.Pairwise (s.InOrder view)) :
    as = bs := by
  refine List.Perm.eq_of_pairwise ?_ hasorted hbsorted (has.trans hbs.symm)
  intro a b ha hb hab hba
  exact h.inOrder_antisymm hs (has.mem_iff.mp ha) (hbs.mem_iff.mp hb) hab hba

end Listings

end Statement

/-! ## Ranges -/

section Ranges

variable {α : Type}

/-- The rows in a range, or all of them if there is none. -/
def cutTo : Option RowRange → List α → List α
  | some r, rows => r.cut rows
  | none, rows => rows

/-- The argument after those of `before` says the number `n`. -/
theorem rowNumber?_at (before after : List Argument) {n : Nat} {k : Int64} (h : k.toInt = n) :
    rowNumber? (before ++ .int k :: after) (before.length + 1) = some n := by
  rw [rowNumber?, Condition.argument_at]
  show (if 0 ≤ k.toInt then some k.toInt.toNat else none) = some n
  rw [h, if_pos (Int.natCast_nonneg n), Int.toNat_natCast]

/-- The database reads the `range` that the arguments were made of, and cuts the rows by it. -/
theorem Statement.cutTo?_cutoff {range : Option RowRange} {limit : Option RowLimit}
    (h : forOption rowLimit range = .ok limit) (t : TableName) (c : Condition)
    (order : Option RowOrder) (key : Identifier) (rows : List α) :
    Cutoff.cutTo? (select t c order key limit).cutoff (select t c order key limit).arguments rows =
      some (cutTo range rows) := by
  cases range with
  | none =>
    cases h
    rfl
  | some r =>
    obtain ⟨l, hl, rfl⟩ := map_eq_ok_iff.mp h
    obtain ⟨take, htake, hl⟩ := bind_eq_ok_iff.mp hl
    obtain ⟨skip, hskip, hl⟩ := bind_eq_ok_iff.mp hl
    cases hl
    have harguments : (select t c order key (some ⟨take, skip⟩)).arguments =
        c.arguments ++ [.int take, .int skip] :=
      arguments_select t c order key (some ⟨take, skip⟩)
    have hlimit := rowNumber?_at c.arguments [.int skip] (toInt_of_rowCount htake)
    have hoffset := rowNumber?_at (c.arguments ++ [.int take]) [] (toInt_of_rowCount hskip)
    rw [List.length_append, List.length_singleton, List.append_assoc] at hoffset
    rw [harguments, cutoff, Cutoff.cutTo?, Cutoff.cut?, Nat.add_comm 1, hlimit]
    show (rowNumber? (c.arguments ++ [.int take, .int skip]) (c.arguments.length + 1 + 1) >>= _) = _
    rw [show [Argument.int take, .int skip] = [.int take] ++ [.int skip] from rfl, hoffset]
    rfl

end Ranges

/-! ## Statements with a sorting and a range -/

section Select

variable {m : TableMapping} {f : Filter} {o : FieldOrder} {range : Option RowRange}
  {s : Statement} {column : Column}

/-- A selection with an order has its column and direction, and the limit made of its `range`. -/
theorem exists_of_select (h : select m f (some o) range = .ok s)
    (hcolumn : m.columns.find? o.field = some column) :
    ∃ condition limit, forOption rowLimit range = .ok limit ∧ s =
      .select m.table condition (some ⟨column.name, o.direction = .descending⟩) m.key limit := by
  obtain ⟨condition, -, h⟩ := bind_eq_ok_iff.mp h
  obtain ⟨sorting, hsorting, h⟩ := bind_eq_ok_iff.mp h
  obtain ⟨limit, hlimit, h⟩ := bind_eq_ok_iff.mp h
  cases h
  rw [forOption, rowOrder, TableMapping.resolve, hcolumn] at hsorting
  cases hsorting
  exact ⟨condition, limit, hlimit, rfl⟩

/-- A selection `s` with a sorting by a field has one answer in every `table` whose rows have
different keys, and memory finds it as well: the `rows` that satisfy the condition, listed by
ascending keys, are sorted by what the column of the field holds and cut to the `range`. So a page
in memory is just what the database gives for it. -/
theorem sorted_answer_agrees (h : select m f (some o) range = .ok s)
    (hcolumn : m.columns.find? o.field = some column) {α : Type} {view : α → Row}
    {table rows : List α} (hrows : s.IsListing view column.name m.key table rows)
    {order : OrderBy α} (hdirection : order.direction = o.direction)
    (hvalues : ∀ a ∈ rows, order.key a = .ok (view a column.name).value) :
    s.text = s.head ++ s.clause.text ++
        (SortKey.sortingText s.sortKeys ++ Cutoff.cutText s.cutoff) ∧
      ∃ answer, (∀ as, s.IsAnswer view table as ↔ as = answer) ∧
        (order.sort rows).map (cutTo range) = .ok answer ∧
        ∀ p : PagedSpecification α, p.order = order → range = some p.range →
          p.window rows = .ok answer := by
  obtain ⟨condition, limit, hlimit, rfl⟩ := exists_of_select h hcolumn
  refine ⟨Statement.text_eq_sorted _, ?_⟩
  have hkeys : firstError? order.key rows = none :=
    firstError?_eq_none_iff.mpr fun a ha => ⟨_, hvalues a ha⟩
  obtain ⟨sorted, hsort, hsorted⟩ := OrderBy.exists_sort hkeys
  have hordered := hrows.pairwise_inOrder rfl hdirection hvalues hsorted
  have hcut (rows : List α) := Statement.cutTo?_cutoff hlimit m.table condition
    (some ⟨column.name, o.direction = .descending⟩) m.key rows
  refine ⟨cutTo range sorted, fun as => ⟨fun has => ?_, ?_⟩, ?_, ?_⟩
  · obtain ⟨-, other, hperm, hother, has⟩ := has
    have hsame : other = sorted :=
      hrows.sorted_unique rfl (hperm.trans hrows.selected.symm) hsorted.perm hother hordered
    rw [hcut, hsame] at has
    exact (Option.some.inj has).symm
  · rintro rfl
    exact ⟨hrows.evaluated, sorted, hsorted.perm.trans hrows.selected, hordered, hcut sorted⟩
  · rw [hsort]
    rfl
  · rintro p rfl rfl
    rw [PagedSpecification.window, hsort]
    rfl

/-- Four rows, two of them with equal zip codes and one without. Downward by the zip code the row
without one is the last, and of equal ones the smaller key is first. -/
theorem sorted_answer_agrees_ties :
    let zip : Column := ⟨⟨"zip", by decide⟩, .scalar⟩
    let m : TableMapping := ⟨⟨[⟨"people", by decide⟩]⟩, TableMapping.defaultKey,
      SortedMap.empty.insert "zip_code" zip⟩
    let view (e : Int64 × Option String) : Row := fun i =>
      if i = zip.name then (e.2.map fun z => Cell.scalar (.text z)).getD .null
      else .scalar (.int e.1)
    let rows : List (Int64 × Option String) := [(1, "b"), (2, none), (3, "b"), (4, "c")]
    let order : OrderBy (Int64 × Option String) :=
      .byKey "zip_code" .descending fun e => (view e zip.name).value
    let page : Page := ⟨1, 2, by decide, by decide⟩
    let p : PagedSpecification (Int64 × Option String) := ⟨.all, order, page⟩
    let s : Statement := .select m.table (.const true) (some ⟨zip.name, true⟩) m.key (some ⟨2, 2⟩)
    (select m (.const true) (some ⟨"zip_code", .descending⟩) (some p.range) = .ok s ∧
        s.IsListing view zip.name m.key rows.reverse rows) ∧
      s.IsAnswer view rows.reverse [(3, "b"), (2, none)] ∧
      p.window rows = .ok [(3, "b"), (2, none)] := by
  intro zip m view rows order page p s
  have hselect : select m (.const true) (some ⟨"zip_code", .descending⟩) (some p.range) = .ok s :=
    rfl
  have hrows : s.IsListing view zip.name m.key rows.reverse rows := by
    refine ⟨fun a _ => ⟨_, rfl⟩, (List.reverse_perm rows).symm, ?_, .text, by decide, ?_⟩
    · have hkeys (a b : Int64 × Option String) (hlt : compare a.1.toInt b.1.toInt = .lt) :
          KeyPrecedes m.key (view a) (view b) :=
        ⟨.int a.1, .int b.1, rfl, rfl, congrArg some hlt⟩
      have hascending : rows.Pairwise fun a b => compare a.1.toInt b.1.toInt = .lt := by decide
      exact hascending.imp fun {a b} hlt => hkeys a b hlt
    · rintro ⟨key, _ | code⟩ -
      · trivial
      · rfl
  have hanswer : s.IsAnswer view rows.reverse [(3, "b"), (2, none)] := by
    let sorted : List (Int64 × Option String) := [(4, "c"), (1, "b"), (3, "b"), (2, none)]
    have hperm : sorted.Perm rows.reverse := by decide
    have hsorted : sorted.Pairwise fun a b =>
        SortKey.rowOrder? s.sortKeys (view a) (view b) = some .lt := by decide
    exact ⟨fun a _ => ⟨_, rfl⟩, sorted, hperm, hsorted.imp fun hlt => ⟨.lt, hlt, rfl⟩, rfl⟩
  have hcolumn : m.columns.find? "zip_code" = some zip := rfl
  have hvalues : ∀ e ∈ rows, order.key e = .ok (view e zip.name).value := fun _ _ => rfl
  obtain ⟨-, answer, hunique, -, hwindow⟩ :=
    sorted_answer_agrees hselect hcolumn hrows rfl hvalues
  obtain rfl := (hunique _).mp hanswer
  exact ⟨⟨hselect, hrows⟩, hanswer, hwindow p rfl rfl⟩

end Select

end Quarry.Sql
