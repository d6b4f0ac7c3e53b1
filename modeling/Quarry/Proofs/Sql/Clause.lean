import Quarry.Proofs.Timestamp
import Quarry.Sql.Statement

/-!
# What a condition means to the database

The condition of a statement goes to the database as text with numbered placeholders, and the
arguments go along with it. Here is what the database makes of them. A `Clause` is the syntax that
the text writes down, and it is evaluated on a row in three-valued logic: a comparison with null is
unknown, and an unknown truth value stays unknown unless the other side decides. A comparison of
values of different types is no truth value at all; it fails the statement.

`Condition.text_clause` says which clause a condition writes down, and `Condition.eval_clause` that
each placeholder finds its argument, wherever the condition stands in a statement.
-/

namespace Quarry.Sql

/-! ## Truth values -/

/-- A truth value of SQL, where `none` is the unknown one. -/
abbrev Truth := Option Bool

/-- Conjunction: `some false` if one side is so, `some true` if both are, and unknown otherwise. -/
def Truth.and : Truth → Truth → Truth
  | some false, _ => some false
  | _, some false => some false
  | some true, some true => some true
  | _, _ => none

/-- Disjunction: `some true` if one side is so, `some false` if both are, and unknown otherwise. -/
def Truth.or : Truth → Truth → Truth
  | some true, _ => some true
  | _, some true => some true
  | some false, some false => some false
  | _, _ => none

/-- Negation, which leaves the unknown truth value as it is. -/
def Truth.not : Truth → Truth
  | some b => some !b
  | none => none

/-- What `COALESCE(_, FALSE)` makes of a truth value: false in place of the unknown one. -/
def Truth.orFalse : Truth → Truth
  | some b => some b
  | none => some false

@[simp]
theorem Truth.and_some (a b : Bool) : Truth.and (some a) (some b) = some (a && b) := by
  cases a <;> cases b <;> rfl

@[simp]
theorem Truth.or_some (a b : Bool) : Truth.or (some a) (some b) = some (a || b) := by
  cases a <;> cases b <;> rfl

@[simp]
theorem Truth.not_some (a : Bool) : Truth.not (some a) = some !a := rfl

/-- Why the execution of a statement fails. -/
inductive Fault where
  /-- There is no such operator for operands of these types. -/
  | noOperator
  /-- There is no argument for a placeholder. -/
  | noArgument

/-! ## Rows -/

/-- What an argument, a column or an element of an array is to the database. -/
inductive Scalar where
  | bool (b : Bool)
  | int (n : Int64)
  | float (x : Binary64)
  | uuid (u : Uuid)
  /-- A moment, as its distance in microseconds from 1 January 2000. -/
  | timestamp (micros : Int)
  | text (s : String)

/-- What a column holds in a row: `null`, one value or an array. -/
inductive Cell where
  | null
  | scalar (s : Scalar)
  /-- An array; an element may be null. -/
  | array (elements : List (Option Scalar))

/-- A row gives every column its `Cell`. -/
abbrev Row := Identifier → Cell

/-- An element of an array as a cell, where `none` is `null`. -/
def Cell.ofElement : Option Scalar → Cell
  | some s => .scalar s
  | none => .null

/-- The value that the database gets for an argument; a timestamp loses what is finer than a
microsecond. -/
def Argument.bound : Argument → Scalar
  | .bool b => .bool b
  | .int n => .int n
  | .float x => .float x
  | .uuid u => .uuid u
  | .timestamp t => .timestamp t.microsSince2000
  | .text s => .text s

/-! ## Operators -/

/-- The order of `s` and `t` as texts: character by character, and characters by their code points.
-/
def textOrder (s t : String) : Ordering :=
  if s.toList < t.toList then .lt else if s = t then .eq else .gt

/-- The order of floats in the database: that of the numbers, with a NaN equal to itself and greater
than all others. -/
def floatOrder (x y : Binary64) : Ordering :=
  match x.partialCompare y with
  | some o => o
  | none => compare x.isNaN y.isNaN

/-- The order of two values, which only values of one type have. -/
def Scalar.order? : Scalar → Scalar → Option Ordering
  | .bool a, .bool b => some (compare a b)
  | .int a, .int b => some (compare a.toInt b.toInt)
  | .float x, .float y => some (floatOrder x y)
  | .uuid u, .uuid v => some (compare u v)
  | .timestamp a, .timestamp b => some (compare a b)
  | .text s, .text t => some (textOrder s t)
  | _, _ => none

/-- Whether a `Comparison` holds of operands whose order is `o`. -/
def Comparison.admits : Comparison → Ordering → Bool
  | .eq, o => o.isEq
  | .ne, o => o.isNe
  | .lt, o => o.isLT
  | .le, o => o.isLE
  | .gt, o => o.isGT
  | .ge, o => o.isGE

namespace Cell

/-- The `comparison` of a cell with a value: unknown if the cell is `null`, and a fault if the types
differ. -/
def compareTo (comparison : Comparison) : Cell → Scalar → Except Fault Truth
  | .null, _ => .ok none
  | .scalar s, v =>
    match s.order? v with
    | some o => .ok (some (comparison.admits o))
    | none => .error .noOperator
  | .array _, _ => .error .noOperator

/-- Whether some cell equals `v`, as a disjunction from left to right. -/
def anyEqual (v : Scalar) : List Cell → Except Fault Truth
  | [] => .ok (some false)
  | c :: cs => do
    let first ← c.compareTo .eq v
    let rest ← anyEqual v cs
    .ok (Truth.or first rest)

/-- What `value = ANY(array)` tests: whether an element of the array equals the value. -/
def anyElement : Cell → Scalar → Except Fault Truth
  | .null, _ => .ok none
  | .array elements, v => anyEqual v (elements.map ofElement)
  | .scalar _, _ => .error .noOperator

/-- What `c IN (…)` tests: whether the cell equals one of the values, as a disjunction from left to
right. -/
def among (c : Cell) : List Scalar → Except Fault Truth
  | [] => .ok (some false)
  | v :: vs => do
    let first ← c.compareTo .eq v
    let rest ← c.among vs
    .ok (Truth.or first rest)

/-- What `strpos` counts: the place, counted from one, where `needle` first occurs, or zero. -/
def position (needle : List Char) : List Char → Nat
  | [] => if needle = [] then 1 else 0
  | c :: cs =>
    if needle <+: c :: cs then 1
    else
      match position needle cs with
      | 0 => 0
      | n + 1 => n + 2

/-- What `strpos(cell, value) > 0` tests, on texts only. -/
def containsText : Cell → Scalar → Except Fault Truth
  | .null, _ => .ok none
  | .scalar (.text s), .text t => .ok (some (0 < position t.toList s.toList))
  | _, _ => .error .noOperator

/-- What `starts_with(cell, value)` tests, on texts only. -/
def startsWith : Cell → Scalar → Except Fault Truth
  | .null, _ => .ok none
  | .scalar (.text s), .text t => .ok (some (t.toList <+: s.toList))
  | _, _ => .error .noOperator

/-- Whether the cell is `null`. -/
def isNull : Cell → Bool
  | .null => true
  | _ => false

end Cell

/-! ## Clauses -/

/-- A `Condition` as the database reads it, with the numbers of placeholders in place of its
arguments. -/
inductive Clause where
  | const (b : Bool)
  | isNull (column : Identifier)
  | isNotNull (column : Identifier)
  | compare (column : Identifier) (comparison : Comparison) (number : Nat)
  /-- The argument equals an element of an array column. -/
  | anyElement (column : Identifier) (number : Nat)
  /-- The argument occurs in a text column. -/
  | containsText (column : Identifier) (number : Nat)
  | startsWith (column : Identifier) (number : Nat)
  /-- The column equals one of some arguments. -/
  | among (column : Identifier) (numbers : List Nat)
  /-- The clause, or false where it is unknown. -/
  | orFalse (c : Clause)
  | and (a b : Clause)
  | or (a b : Clause)
  | not (a : Clause)

/-- The name `i` between quotes. -/
def quoted (i : Identifier) : String :=
  "\"" ++ i.text ++ "\""

/-- The placeholder number `n`, as in `$1`. -/
def numbered (n : Nat) : String :=
  "$" ++ toString n

namespace Clause

/-- The text of a clause, as it stands in a statement. -/
def text : Clause → String
  | .const true => "TRUE"
  | .const false => "FALSE"
  | .isNull c => quoted c ++ " IS NULL"
  | .isNotNull c => quoted c ++ " IS NOT NULL"
  | .compare c op n => quoted c ++ " " ++ op.symbol ++ " " ++ numbered n
  | .anyElement c n => numbered n ++ " = ANY(" ++ quoted c ++ ")"
  | .containsText c n => "strpos(" ++ quoted c ++ ", " ++ numbered n ++ ") > 0"
  | .startsWith c n => "starts_with(" ++ quoted c ++ ", " ++ numbered n ++ ")"
  | .among c ns => quoted c ++ " IN (" ++ String.intercalate ", " (ns.map numbered) ++ ")"
  | .orFalse c => "COALESCE(" ++ c.text ++ ", FALSE)"
  | .and a b => "(" ++ a.text ++ " AND " ++ b.text ++ ")"
  | .or a b => "(" ++ a.text ++ " OR " ++ b.text ++ ")"
  | .not a => "NOT (" ++ a.text ++ ")"

/-- The value of a placeholder. Placeholders count from one, so `0` and numbers past the end are
faults. -/
def argument (arguments : List Argument) : Nat → Except Fault Scalar
  | 0 => .error .noArgument
  | n + 1 =>
    match arguments[n]? with
    | some a => .ok a.bound
    | none => .error .noArgument

/-- The truth value of a clause on a `row`, with its placeholders looked up in `arguments`. -/
def eval (row : Row) (arguments : List Argument) : Clause → Except Fault Truth
  | .const b => .ok (some b)
  | .isNull c => .ok (some (row c).isNull)
  | .isNotNull c => .ok (some !(row c).isNull)
  | .compare c op n => argument arguments n >>= (row c).compareTo op
  | .anyElement c n => argument arguments n >>= (row c).anyElement
  | .containsText c n => argument arguments n >>= (row c).containsText
  | .startsWith c n => argument arguments n >>= (row c).startsWith
  | .among c ns => ns.mapM (argument arguments) >>= (row c).among
  | .orFalse c => (c.eval row arguments).map Truth.orFalse
  | .and a b => do
    let a ← a.eval row arguments
    let b ← b.eval row arguments
    .ok (Truth.and a b)
  | .or a b => do
    let a ← a.eval row arguments
    let b ← b.eval row arguments
    .ok (Truth.or a b)
  | .not a => (a.eval row arguments).map Truth.not

end Clause

/-! ## Fragments with others between them -/

/-- The fragments `placeholders as` are the placeholders with commas between them. -/
theorem placeholders_eq_intersperse (as : List Argument) :
    placeholders as = (as.map Fragment.placeholder).intersperse (.words ", ") := by
  induction as with
  | nil => rfl
  | cons a rest ih =>
    cases rest with
    | nil => rfl
    | cons b rest => exact congrArg (.placeholder a :: .words ", " :: ·) ih

/-- The fragments `nameFragments is` are the names with full stops between them. -/
theorem nameFragments_eq_intersperse (is : List Identifier) :
    nameFragments is = (is.map Fragment.name).intersperse (.words ".") := by
  induction is with
  | nil => rfl
  | cons i rest ih =>
    cases rest with
    | nil => rfl
    | cons j rest => exact congrArg (.name i :: .words "." :: ·) ih

/-- What `part` finds in fragments it finds in them also with `separator` between them, in which it
finds nothing. -/
theorem filterMap_intersperse {β : Type} {part : Fragment → Option β} {separator : Fragment}
    (hseparator : part separator = none) (fs : List Fragment) :
    (fs.intersperse separator).filterMap part = fs.filterMap part := by
  induction fs with
  | nil => rfl
  | cons f rest ih =>
    cases rest with
    | nil => rfl
    | cons g rest =>
      rw [List.intersperse_cons_cons, List.filterMap_cons, List.filterMap_cons_none hseparator, ih]
      rfl

theorem filterMap_placeholders {β : Type} {part : Fragment → Option β}
    (hwords : part (.words ", ") = none) (as : List Argument) :
    (placeholders as).filterMap part = as.filterMap fun a => part (.placeholder a) := by
  rw [placeholders_eq_intersperse, filterMap_intersperse hwords, List.filterMap_map]
  rfl

theorem filterMap_nameFragments {β : Type} {part : Fragment → Option β}
    (hwords : part (.words ".") = none) (is : List Identifier) :
    (nameFragments is).filterMap part = is.filterMap fun i => part (.name i) := by
  rw [nameFragments_eq_intersperse, filterMap_intersperse hwords, List.filterMap_map]
  rfl

theorem filterMap_argument?_placeholders (as : List Argument) :
    (placeholders as).filterMap Fragment.argument? = as :=
  (filterMap_placeholders rfl as).trans List.filterMap_some

theorem filterMap_argument?_nameFragments (is : List Identifier) :
    (nameFragments is).filterMap Fragment.argument? = [] :=
  (filterMap_nameFragments rfl is).trans (List.filterMap_eq_nil_iff.mpr fun _ _ => rfl)

/-! ## The clause of a condition -/

namespace Condition

/-- The arguments of `c` in the order of their placeholders. -/
def arguments (c : Condition) : List Argument :=
  c.fragments.filterMap Fragment.argument?

/-- The clause that a condition writes down if its first placeholder has the number `n`. -/
def clause : Nat → Condition → Clause
  | _, .const b => .const b
  | _, .isNull c => .isNull c
  | _, .isNotNull c => .isNotNull c
  | n, .compare c op _ => .compare c op n
  | n, .anyElement c _ => .anyElement c n
  | n, .containsText c _ => .containsText c n
  | n, .startsWith c _ => .startsWith c n
  | n, .among c as => .among c (List.range' n as.length)
  | n, .orFalse c => .orFalse (c.clause n)
  | n, .and a b => .and (a.clause n) (b.clause (n + a.arguments.length))
  | n, .or a b => .or (a.clause n) (b.clause (n + a.arguments.length))
  | n, .not a => .not (a.clause n)

/-- The truth value of a condition on a `row`, with its arguments where they stand. -/
def eval (row : Row) : Condition → Except Fault Truth
  | .const b => .ok (some b)
  | .isNull c => .ok (some (row c).isNull)
  | .isNotNull c => .ok (some !(row c).isNull)
  | .compare c op a => (row c).compareTo op a.bound
  | .anyElement c a => (row c).anyElement a.bound
  | .containsText c s => (row c).containsText (.text s)
  | .startsWith c s => (row c).startsWith (.text s)
  | .among c as => (row c).among (as.map Argument.bound)
  | .orFalse c => (c.eval row).map Truth.orFalse
  | .and a b => do
    let a ← a.eval row
    let b ← b.eval row
    .ok (Truth.and a b)
  | .or a b => do
    let a ← a.eval row
    let b ← b.eval row
    .ok (Truth.or a b)
  | .not a => (a.eval row).map Truth.not

/-! ### Arguments -/

@[simp]
theorem filterMap_words (s : String) (fs : List Fragment) :
    (Fragment.words s :: fs).filterMap Fragment.argument? = fs.filterMap Fragment.argument? := rfl

@[simp]
theorem filterMap_name (i : Identifier) (fs : List Fragment) :
    (Fragment.name i :: fs).filterMap Fragment.argument? = fs.filterMap Fragment.argument? := rfl

@[simp]
theorem arguments_among (c : Identifier) (as : List Argument) : (among c as).arguments = as := by
  simp [arguments, fragments, filterMap_argument?_placeholders]

@[simp]
theorem arguments_orFalse (c : Condition) : (orFalse c).arguments = c.arguments := by
  simp [arguments, fragments]

@[simp]
theorem arguments_and (a b : Condition) :
    (and a b).arguments = a.arguments ++ b.arguments := by
  simp [arguments, fragments]

@[simp]
theorem arguments_or (a b : Condition) :
    (or a b).arguments = a.arguments ++ b.arguments := by
  simp [arguments, fragments]

@[simp]
theorem arguments_not (c : Condition) : (not c).arguments = c.arguments := by
  simp [arguments, fragments]

/-! ### Text -/

/-- The placeholders of `as` are numbered on from `n`. -/
theorem textFrom_placeholders (n : Nat) (as : List Argument) (fs : List Fragment) :
    textFrom n (placeholders as ++ fs) =
      String.intercalate ", " ((List.range' n as.length).map numbered) ++
        textFrom (n + as.length) fs := by
  induction as generalizing n with
  | nil => simp [placeholders]
  | cons a rest ih =>
    cases rest with
    | nil => simp [placeholders, textFrom, numbered, String.append_assoc]
    | cons b rest =>
      have hlen : n + 1 + (rest.length + 1) = n + (rest.length + 1 + 1) := by omega
      have htail := ih (n + 1)
      rw [List.length_cons, hlen] at htail
      simp only [placeholders, List.cons_append, textFrom, htail, List.length_cons,
        List.range'_succ, List.map_cons, String.intercalate_cons_cons, numbered,
        String.append_assoc]

/-- From the number `n` on, the fragments of `c` write down `c.clause n`, whatever fragments `fs`
follow. -/
theorem text_clause (n : Nat) (c : Condition) (fs : List Fragment) :
    textFrom n (c.fragments ++ fs) =
      (c.clause n).text ++ textFrom (n + c.arguments.length) fs := by
  induction c generalizing n fs with
  | const b => cases b <;> rfl
  | isNull _ | isNotNull _ | compare _ _ _ | anyElement _ _ | containsText _ _ | startsWith _ _ =>
    simp only [fragments, clause, Clause.text, quoted, numbered, textFrom, List.cons_append,
      List.nil_append, String.append_assoc, -String.reduceAppend]
    rfl
  | among c as =>
    rw [arguments_among]
    simp only [fragments, clause, Clause.text, quoted, textFrom, List.cons_append,
      List.append_assoc, textFrom_placeholders, List.nil_append, String.append_assoc]
  | orFalse c ih =>
    rw [arguments_orFalse]
    simp only [fragments, clause, Clause.text, textFrom, List.cons_append, List.append_assoc,
      List.nil_append, ih, String.append_assoc]
  | and a b iha ihb =>
    rw [arguments_and, List.length_append, ← Nat.add_assoc]
    simp only [fragments, clause, Clause.text, textFrom, List.cons_append, List.append_assoc,
      List.nil_append, iha, ihb, String.append_assoc]
  | or a b iha ihb =>
    rw [arguments_or, List.length_append, ← Nat.add_assoc]
    simp only [fragments, clause, Clause.text, textFrom, List.cons_append, List.append_assoc,
      List.nil_append, iha, ihb, String.append_assoc]
  | not a ih =>
    rw [arguments_not]
    simp only [fragments, clause, Clause.text, textFrom, List.cons_append, List.append_assoc,
      List.nil_append, ih, String.append_assoc]

/-! ### Evaluation -/

/-- The placeholder after those of `before` has the argument `a`. -/
theorem argument_at (before after : List Argument) (a : Argument) :
    Clause.argument (before ++ a :: after) (before.length + 1) = .ok a.bound := by
  have hget : (before ++ a :: after)[before.length]? = some a := by
    rw [List.getElem?_append_right (Nat.le_refl _), Nat.sub_self]
    rfl
  rw [Clause.argument, hget]

/-- The placeholders after those of `before` have the arguments `as`, in this order. -/
theorem mapM_argument (before as after : List Argument) :
    (List.range' (before.length + 1) as.length).mapM (Clause.argument (before ++ as ++ after)) =
      .ok (as.map Argument.bound) := by
  induction as generalizing before with
  | nil => rfl
  | cons a rest ih =>
    have hrest := ih (before ++ [a])
    have hassoc : before ++ [a] ++ rest ++ after = before ++ (a :: rest) ++ after := by
      rw [List.append_assoc before [a] rest]
      rfl
    rw [List.length_append, List.length_singleton, hassoc] at hrest
    have hfirst := argument_at before (rest ++ after) a
    rw [← List.cons_append, ← List.append_assoc] at hfirst
    rw [List.length_cons, List.range'_succ, List.mapM_cons, hfirst, hrest]
    rfl

/-- Among the arguments of a statement, the placeholders of `c.clause` find those of `c`: the clause
has the truth value of the condition. -/
theorem eval_clause (row : Row) (c : Condition) (before after : List Argument) :
    (c.clause (before.length + 1)).eval row (before ++ c.arguments ++ after) = c.eval row := by
  induction c generalizing before after with
  | const b => rfl
  | isNull c => rfl
  | isNotNull c => rfl
  | compare c op a | anyElement c a =>
    show Clause.argument (before ++ [a] ++ after) (before.length + 1) >>= _ = _
    rw [List.append_assoc, List.singleton_append, argument_at]
    rfl
  | containsText c s | startsWith c s =>
    show Clause.argument (before ++ [.text s] ++ after) (before.length + 1) >>= _ = _
    rw [List.append_assoc, List.singleton_append, argument_at]
    rfl
  | among c as =>
    rw [arguments_among, clause, Clause.eval, mapM_argument]
    rfl
  | orFalse c ih =>
    rw [arguments_orFalse, clause, Clause.eval, ih]
    rfl
  | and a b iha ihb =>
    have ha := iha before (b.arguments ++ after)
    have hb := ihb (before ++ a.arguments) after
    rw [List.length_append] at hb
    rw [arguments_and, clause, Clause.eval]
    simp only [List.append_assoc, Nat.add_right_comm] at ha hb ⊢
    rw [ha, hb]
    rfl
  | or a b iha ihb =>
    have ha := iha before (b.arguments ++ after)
    have hb := ihb (before ++ a.arguments) after
    rw [List.length_append] at hb
    rw [arguments_or, clause, Clause.eval]
    simp only [List.append_assoc, Nat.add_right_comm] at ha hb ⊢
    rw [ha, hb]
    rfl
  | not a ih =>
    rw [arguments_not, clause, Clause.eval, ih]
    rfl

end Condition

/-! ## Statements -/

/-- The segments of a table's name, each between quotes, with full stops between them. -/
def TableName.quoted (t : TableName) : String :=
  String.intercalate "." (t.segments.map Sql.quoted)

theorem textFrom_nameFragments (n : Nat) (is : List Identifier) (fs : List Fragment) :
    textFrom n (nameFragments is ++ fs) =
      String.intercalate "." (is.map quoted) ++ textFrom n fs := by
  induction is with
  | nil => simp [nameFragments]
  | cons i rest ih =>
    cases rest with
    | nil => simp [nameFragments, textFrom, quoted]
    | cons j rest =>
      simp only [nameFragments, List.cons_append, textFrom, ih, List.map_cons,
        String.intercalate_cons_cons, quoted, String.append_assoc, -String.reduceAppend]

theorem filterMap_orderFragments (order : Option RowOrder) (key : Identifier) :
    (orderFragments order key).filterMap Fragment.argument? = [] := by
  cases order <;> rfl

namespace Statement

/-- The condition that a statement has after its `WHERE`. -/
def condition : Statement → Condition
  | .select _ c _ _ _ => c
  | .count _ c => c

/-- The clause that stands in a statement, whose placeholders are the first ones. -/
def clause (s : Statement) : Clause :=
  s.condition.clause 1

/-- The text of a statement before its clause. -/
def head : Statement → String
  | .select t _ _ _ _ => "SELECT * FROM " ++ t.quoted ++ " WHERE "
  | .count t _ => "SELECT COUNT(*) FROM " ++ t.quoted ++ " WHERE "

/-- The text of a statement after its clause. -/
def tail : Statement → String
  | .select _ c order key limit =>
    textFrom (1 + c.arguments.length) (orderFragments order key ++ limitFragments limit)
  | .count _ _ => ""

/-- A statement is its `head`, its `clause` and its `tail`. -/
theorem text_eq (s : Statement) : s.text = s.head ++ s.clause.text ++ s.tail := by
  cases s with
  | select t c order key limit =>
    have hfragments : (select t c order key limit).fragments =
        .words "SELECT * FROM " :: (nameFragments t.segments ++ .words " WHERE " ::
          (c.fragments ++ (orderFragments order key ++ limitFragments limit))) := by
      simp only [fragments, List.cons_append, List.append_assoc]
    rw [text, hfragments, textFrom, textFrom_nameFragments, textFrom, Condition.text_clause]
    unfold head tail clause condition TableName.quoted
    simp only [String.append_assoc]
  | count t c =>
    have hfragments : (count t c).fragments =
        .words "SELECT COUNT(*) FROM " :: (nameFragments t.segments ++ .words " WHERE " ::
          (c.fragments ++ [])) := by
      simp only [fragments, List.cons_append, List.append_nil]
    rw [text, hfragments, textFrom, textFrom_nameFragments, textFrom, Condition.text_clause]
    unfold head tail clause condition TableName.quoted
    rw [textFrom]
    simp only [String.append_assoc]

/-- The arguments of a selection are those of its condition, and then those of its `limit`. -/
theorem arguments_select (table : TableName) (c : Condition) (order : Option RowOrder)
    (key : Identifier) (limit : Option RowLimit) :
    (select table c order key limit).arguments =
      c.arguments ++ (limitFragments limit).filterMap Fragment.argument? := by
  simp only [arguments, fragments, List.filterMap_append, Condition.filterMap_words,
    filterMap_argument?_nameFragments, filterMap_orderFragments, List.nil_append, List.append_nil]
  rfl

theorem arguments_count (table : TableName) (c : Condition) :
    (count table c).arguments = c.arguments := by
  simp only [arguments, fragments, List.filterMap_append, Condition.filterMap_words,
    filterMap_argument?_nameFragments, List.nil_append]
  rfl

/-- The arguments of the clause are the first ones of a statement. -/
theorem arguments_eq (s : Statement) : ∃ after, s.arguments = s.condition.arguments ++ after := by
  cases s with
  | select table c order key limit => exact ⟨_, arguments_select table c order key limit⟩
  | count table c => exact ⟨[], (arguments_count table c).trans (List.append_nil _).symm⟩

/-- On every `row`, the clause in a statement has the truth value of the condition. -/
theorem eval_clause (s : Statement) (row : Row) :
    s.clause.eval row s.arguments = s.condition.eval row := by
  obtain ⟨after, h⟩ := s.arguments_eq
  rw [h]
  exact Condition.eval_clause row s.condition [] after

end Statement

end Quarry.Sql
