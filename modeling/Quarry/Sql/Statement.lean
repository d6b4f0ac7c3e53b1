import Quarry.Sql.Identifier
import Quarry.Timestamp

/-!
# SQL statements

The statements that queries are turned into, as data: conditions on columns, and the two statements
that have them. Operands are never part of the text of a statement. The text is printed as a list of
fragments in which an operand is a placeholder, and the operands themselves are the arguments that
go with the text, in the order of the placeholders.

A comparison with null has no truth value in SQL. `Condition.orFalse` makes it false, which is what
a criterion says about it.
-/

namespace Quarry.Sql

/-- An argument of a `Statement`, which a placeholder stands for in the text. -/
inductive Argument where
  | bool (b : Bool)
  | int (n : Int64)
  | float (x : Binary64)
  | uuid (u : Uuid)
  /-- A moment, of which the database keeps the microseconds. -/
  | timestamp (t : Timestamp)
  | text (s : String)
deriving DecidableEq

/-- A comparison of a column with an argument. -/
inductive Comparison where
  | eq
  | ne
  | lt
  | le
  | gt
  | ge
deriving DecidableEq, Repr

/-- The text of a comparison in a statement. -/
def Comparison.symbol : Comparison → String
  | .eq => "="
  | .ne => "<>"
  | .lt => "<"
  | .le => "<="
  | .gt => ">"
  | .ge => ">="

/-- A condition on the columns of a row, with its arguments where they stand. -/
inductive Condition where
  | const (b : Bool)
  | isNull (column : Identifier)
  | isNotNull (column : Identifier)
  | compare (column : Identifier) (comparison : Comparison) (argument : Argument)
  /-- The argument equals an element of an array column. -/
  | anyElement (column : Identifier) (argument : Argument)
  | containsText (column : Identifier) (text : String)
  | startsWith (column : Identifier) (text : String)
  | among (column : Identifier) (arguments : List Argument)
  /-- The condition, or false where it has no truth value. -/
  | orFalse (c : Condition)
  | and (a b : Condition)
  | or (a b : Condition)
  | not (a : Condition)

/-- The direction in which rows are sorted by `column`. Nulls come first upward and last downward.
-/
structure RowOrder where
  column : Identifier
  descending : Bool

/-- A part of the sorted rows: at most `limit` of them. -/
structure RowLimit where
  limit : Int64
  /-- The number of rows to leave out before them. -/
  offset : Int64

/-- A statement on one table: `select` gives rows, and `count` their number. -/
inductive Statement where
  /-- The rows of a table for which the condition holds, sorted by a column and then by the key. -/
  | select (table : TableName) (condition : Condition) (order : Option RowOrder)
      (key : Identifier) (limit : Option RowLimit)
  /-- The number of rows of a table for which the condition holds. -/
  | count (table : TableName) (condition : Condition)

/-! ## Text -/

/-- A piece of the text of a statement: words, operators and punctuation, a name between quotes, or
a placeholder. -/
inductive Fragment where
  | words (s : String)
  | name (i : Identifier)
  | placeholder (a : Argument)

/-- Placeholders for some arguments, with commas between them. -/
def placeholders : List Argument → List Fragment
  | [] => []
  | [a] => [.placeholder a]
  | a :: as => .placeholder a :: .words ", " :: placeholders as

/-- The fragments of a `Condition`. -/
def Condition.fragments : Condition → List Fragment
  | .const true => [.words "TRUE"]
  | .const false => [.words "FALSE"]
  | .isNull c => [.name c, .words " IS NULL"]
  | .isNotNull c => [.name c, .words " IS NOT NULL"]
  | .compare c op a => [.name c, .words (" " ++ op.symbol ++ " "), .placeholder a]
  | .anyElement c a => [.placeholder a, .words " = ANY(", .name c, .words ")"]
  | .containsText c s =>
    [.words "strpos(", .name c, .words ", ", .placeholder (.text s), .words ") > 0"]
  | .startsWith c s =>
    [.words "starts_with(", .name c, .words ", ", .placeholder (.text s), .words ")"]
  | .among c as => .name c :: .words " IN (" :: placeholders as ++ [.words ")"]
  | .orFalse c => .words "COALESCE(" :: c.fragments ++ [.words ", FALSE)"]
  | .and a b => .words "(" :: a.fragments ++ .words " AND " :: b.fragments ++ [.words ")"]
  | .or a b => .words "(" :: a.fragments ++ .words " OR " :: b.fragments ++ [.words ")"]
  | .not a => .words "NOT (" :: a.fragments ++ [.words ")"]

/-- The fragments of a qualified name. -/
def nameFragments : List Identifier → List Fragment
  | [] => []
  | [i] => [.name i]
  | i :: is => .name i :: .words "." :: nameFragments is

/-- The fragments of the sorting clause. Rows are sorted by `order`, if there is one, and then by
`key`. -/
def orderFragments (order : Option RowOrder) (key : Identifier) : List Fragment :=
  match order with
  | some o =>
    [.words " ORDER BY ", .name o.column,
      .words (if o.descending then " DESC NULLS LAST, " else " ASC NULLS FIRST, "),
      .name key, .words " ASC"]
  | none => [.words " ORDER BY ", .name key, .words " ASC"]

/-- The fragments of a limiting clause, which is empty if there is no `RowLimit`. -/
def limitFragments : Option RowLimit → List Fragment
  | some l =>
    [.words " LIMIT ", .placeholder (.int l.limit), .words " OFFSET ", .placeholder (.int l.offset)]
  | none => []

/-- The fragments of a `Statement`. -/
def Statement.fragments : Statement → List Fragment
  | .select table condition order key limit =>
    .words "SELECT * FROM " :: nameFragments table.segments ++ .words " WHERE " ::
      condition.fragments ++ orderFragments order key ++ limitFragments limit
  | .count table condition =>
    .words "SELECT COUNT(*) FROM " :: nameFragments table.segments ++ .words " WHERE " ::
      condition.fragments

/-- The text of some fragments, whose first placeholder has the given number. -/
def textFrom : Nat → List Fragment → String
  | _, [] => ""
  | n, .words s :: fs => s ++ textFrom n fs
  | n, .name i :: fs => "\"" ++ i.text ++ "\"" ++ textFrom n fs
  | n, .placeholder _ :: fs => "$" ++ toString n ++ textFrom (n + 1) fs

/-- The argument of a fragment that is a `placeholder`. -/
def Fragment.argument? : Fragment → Option Argument
  | .placeholder a => some a
  | _ => none

/-- The text of `s`. Placeholders are numbered from one. -/
def Statement.text (s : Statement) : String :=
  textFrom 1 s.fragments

/-- The arguments of `s`, in the order of their placeholders. -/
def Statement.arguments (s : Statement) : List Argument :=
  s.fragments.filterMap Fragment.argument?

end Quarry.Sql
