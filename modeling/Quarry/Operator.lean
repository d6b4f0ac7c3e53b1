/-!
# Operators

The tests that a criterion can make of a field. Two of them look at the field alone; the others take
an operand.
-/

namespace Quarry

/-- The test that a `Criterion` makes. -/
inductive Operator where
  | eq
  | ne
  | lt
  | le
  | gt
  | ge
  /-- A text within a text field, or an item of a list field. -/
  | contains
  /-- A text at the start of a text field. -/
  | startsWith
  /-- The field equals an item of the operand, a list. -/
  | isIn
  | isNull
  | isNotNull
deriving DecidableEq, Repr

namespace Operator

/-- Whether the operator takes no operand. -/
def isUnary : Operator → Bool
  | .isNull => true
  | .isNotNull => true
  | _ => false

/-- The text of an operator in a rendered criterion. -/
def symbol : Operator → String
  | .eq => "=="
  | .ne => "!="
  | .lt => "<"
  | .le => "<="
  | .gt => ">"
  | .ge => ">="
  | .contains => "CONTAINS"
  | .startsWith => "STARTS WITH"
  | .isIn => "IN"
  | .isNull => "IS NULL"
  | .isNotNull => "IS NOT NULL"

/-- All operators, in the order in which error texts list them. -/
def all : List Operator :=
  [.eq, .ne, .lt, .le, .gt, .ge, .contains, .startsWith, .isIn, .isNull, .isNotNull]

/-- The name of an operator in a stored filter. -/
def name : Operator → String
  | .eq => "eq"
  | .ne => "ne"
  | .lt => "lt"
  | .le => "le"
  | .gt => "gt"
  | .ge => "ge"
  | .contains => "contains"
  | .startsWith => "starts_with"
  | .isIn => "in"
  | .isNull => "is_null"
  | .isNotNull => "is_not_null"

/-- The operator whose `name` is `s`. -/
def ofName? (s : String) : Option Operator :=
  all.find? fun op => op.name = s

/-- What an order of the field and the operand means for each of the six comparisons. They are all
false for `none`. The other operators do not compare. -/
def holdsOf : Operator → Option Ordering → Bool
  | .eq, o => o == some .eq
  | .ne, o => o == some .lt || o == some .gt
  | .lt, o => o == some .lt
  | .le, o => o == some .lt || o == some .eq
  | .gt, o => o == some .gt
  | .ge, o => o == some .gt || o == some .eq
  | _, _ => false

end Operator

end Quarry
