import Quarry.Proofs.Sql.Clause

/-!
# What the end of a statement means to the database

Behind its condition a statement says how rows are sorted and which part of them is wanted. This
goes to the database as text, too, and here is what the database makes of it.

Rows are compared key by key, and the first key that tells them apart decides. Where nulls stand is
said with a key, or else it follows from the direction: by themselves they are larger than all other
values. Of the sorted rows the database leaves out as many as the one argument says, and gives at
most as many as the other one says. `Statement.text_eq_sorted` says which sorting and which cut a
statement writes down, and `Statement.IsAnswer` what it may be answered with.
-/

namespace Quarry.Sql

/-! ## Sorting -/

/-- The end of the sorted rows where the nulls stand. -/
inductive NullsPlace where
  | first
  | last

/-- The order of a null and another value. -/
def NullsPlace.order : NullsPlace → Ordering
  | .first => .lt
  | .last => .gt

/-- A column that rows are sorted by, downward if it is `descending`. -/
structure SortKey where
  column : Identifier
  descending : Bool
  /-- Where the nulls stand, if it is said. -/
  nulls : Option NullsPlace

namespace SortKey

/-- The text of a key in an `ORDER BY`. -/
def text (k : SortKey) : String :=
  quoted k.column ++ (if k.descending then " DESC" else " ASC") ++
    match k.nulls with
    | some .first => " NULLS FIRST"
    | some .last => " NULLS LAST"
    | none => ""

/-- Where the nulls stand: where the key says, and otherwise at the end where the greatest values
are. -/
def nullsPlace (k : SortKey) : NullsPlace :=
  k.nulls.getD (if k.descending then .first else .last)

/-- The order of two cells under `k`, if they hold nulls or values of one type. -/
def order? (k : SortKey) : Cell → Cell → Option Ordering
  | .null, .null => some .eq
  | .null, .scalar _ => some k.nullsPlace.order
  | .scalar _, .null => some k.nullsPlace.order.swap
  | .scalar s, .scalar t => if k.descending then t.order? s else s.order? t
  | _, _ => none

/-- The order of two rows: that of their cells under the first key that tells them apart. -/
def rowOrder? : List SortKey → Row → Row → Option Ordering
  | [], _, _ => some .eq
  | k :: ks, r, r' =>
    match k.order? (r k.column) (r' k.column) with
    | some .eq => rowOrder? ks r r'
    | o => o

/-- The `ORDER BY` of some keys, which is empty if there are none. -/
def sortingText : List SortKey → String
  | [] => ""
  | k :: ks => " ORDER BY " ++ String.intercalate ", " ((k :: ks).map text)

end SortKey

/-! ## Cutting -/

/-- The part of the rows that is wanted, by the numbers of the placeholders for its `limit` and
`offset`. -/
structure Cutoff where
  limit : Nat
  offset : Nat

/-- The number of rows that the placeholder `number` stands for, if it is a number and not negative.
-/
def rowNumber? (arguments : List Argument) (number : Nat) : Option Nat :=
  match Clause.argument arguments number with
  | .ok (.int n) => if 0 ≤ n.toInt then some n.toInt.toNat else none
  | _ => none

namespace Cutoff

variable {α : Type}

/-- The text of a limiting clause. -/
def text (c : Cutoff) : String :=
  " LIMIT " ++ numbered c.limit ++ " OFFSET " ++ numbered c.offset

/-- The `rows` from the offset on and up to the limit, with both read from `arguments`. -/
def cut? (c : Cutoff) (arguments : List Argument) (rows : List α) : Option (List α) := do
  let limit ← rowNumber? arguments c.limit
  let offset ← rowNumber? arguments c.offset
  some ((rows.drop offset).take limit)

/-- The text of a limiting clause, which is empty if there is none. -/
def cutText : Option Cutoff → String
  | some c => c.text
  | none => ""

/-- The wanted part of the rows, which is all of them if there is no limiting clause. -/
def cutTo? : Option Cutoff → List Argument → List α → Option (List α)
  | some c, arguments, rows => c.cut? arguments rows
  | none, _, rows => some rows

end Cutoff

/-! ## Statements -/

/-- The key of a sorting by a column: nulls are last if it is descending, and first otherwise. -/
def RowOrder.sortKey (o : RowOrder) : SortKey :=
  ⟨o.column, o.descending, some (if o.descending then .last else .first)⟩

namespace Statement

/-- The keys that the rows of a statement are sorted by; that of the table is the last one. -/
def sortKeys : Statement → List SortKey
  | .select _ _ (some o) key _ => [o.sortKey, ⟨key, false, none⟩]
  | .select _ _ none key _ => [⟨key, false, none⟩]
  | .count _ _ => []

/-- The limiting clause of a statement, whose placeholders come after those of the condition. -/
def cutoff : Statement → Option Cutoff
  | .select _ c _ _ (some _) => some ⟨1 + c.arguments.length, 1 + c.arguments.length + 1⟩
  | .select _ _ _ _ none => none
  | .count _ _ => none

theorem text_sortKey (o : RowOrder) :
    o.sortKey.text ++ ", " =
      quoted o.column ++ if o.descending then " DESC NULLS LAST, " else " ASC NULLS FIRST, " := by
  rw [SortKey.text, RowOrder.sortKey]
  cases o.descending with
  | true => simp [String.append_assoc]
  | false => simp [String.append_assoc]

theorem textFrom_orderFragments (n : Nat) (order : Option RowOrder) (key : Identifier)
    (fs : List Fragment) :
    textFrom n (orderFragments order key ++ fs) =
      SortKey.sortingText (order.toList.map RowOrder.sortKey ++ [⟨key, false, none⟩]) ++
        textFrom n fs := by
  have hkey : SortKey.text ⟨key, false, none⟩ = quoted key ++ " ASC" := String.append_empty
  cases order with
  | none =>
    show " ORDER BY " ++ (quoted key ++ (" ASC" ++ textFrom n fs)) =
      " ORDER BY " ++ String.intercalate ", " [SortKey.text ⟨key, false, none⟩] ++ textFrom n fs
    rw [String.intercalate_singleton, hkey]
    simp only [String.append_assoc]
  | some o =>
    show " ORDER BY " ++ (quoted o.column ++ (_ ++ (quoted key ++ (" ASC" ++ textFrom n fs)))) =
      " ORDER BY " ++ String.intercalate ", " [o.sortKey.text, SortKey.text ⟨key, false, none⟩] ++
        textFrom n fs
    rw [String.intercalate_cons_cons, String.intercalate_singleton, hkey, text_sortKey]
    simp only [String.append_assoc]

/-- The tail of a statement is its sorting clause and its limiting clause. -/
theorem tail_eq (s : Statement) :
    s.tail = SortKey.sortingText s.sortKeys ++ Cutoff.cutText s.cutoff := by
  cases s with
  | select t c order key limit =>
    rw [tail, textFrom_orderFragments]
    have hkeys : (select t c order key limit).sortKeys =
        order.toList.map RowOrder.sortKey ++ [⟨key, false, none⟩] := by
      cases order with
      | none => rfl
      | some o => rfl
    rw [hkeys]
    cases limit with
    | none => rfl
    | some l =>
      simp [limitFragments, textFrom, cutoff, Cutoff.cutText, Cutoff.text, numbered,
        String.append_assoc]
  | count t c => rfl

/-- A statement is its `head`, its clause, the sorting by its `sortKeys` and its `cutoff`. -/
theorem text_eq_sorted (s : Statement) :
    s.text = s.head ++ s.clause.text ++
      (SortKey.sortingText s.sortKeys ++ Cutoff.cutText s.cutoff) := by
  rw [text_eq, tail_eq]

section Answers

variable {α : Type} (s : Statement) (view : α → Row)

/-- Whether the clause of `s` is true of the row that `a` has under `view`. -/
def passes (a : α) : Bool :=
  match s.clause.eval (view a) s.arguments with
  | .ok (some true) => true
  | _ => false

/-- Sorted as `s` says, `a` may stand before `b`. -/
def InOrder (a b : α) : Prop :=
  ∃ o, SortKey.rowOrder? s.sortKeys (view a) (view b) = some o ∧ o.isLE = true

/-- Against the `table`, the statement `s` may be answered with the rows in `answer`. Rows that the
keys do not tell apart may come in any order. -/
structure IsAnswer (table answer : List α) : Prop where
  /-- The condition can be evaluated on every row of the table. -/
  evaluated : ∀ a ∈ table, ∃ t, s.clause.eval (view a) s.arguments = .ok t
  /-- The rows of which it is true are sorted and cut. -/
  sorted : ∃ sorted : List α, sorted.Perm (table.filter (s.passes view)) ∧
    sorted.Pairwise (s.InOrder view) ∧
    Cutoff.cutTo? s.cutoff s.arguments sorted = some answer

end Answers

end Statement

end Quarry.Sql
