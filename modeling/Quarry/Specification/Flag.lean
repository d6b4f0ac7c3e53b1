import Quarry.Specification

/-!
# Flags as predicates

Two ready-made predicates on records that read one field. The plain one asks whether the field is
true and takes everything else for no. The strict one takes a text in the field for the report of a
failure, and reports a field that the record does not have.
-/

namespace Quarry.Specification

variable {α : Type} [Record α]

/-- The specification `name` that `field` is there and is true. -/
def flag (name field : String) : Specification α :=
  ofPredicate name fun entity =>
    match Record.field? entity field with
    | some (.bool b) => b
    | _ => false

/-- The specification `name` that `field` is true; a text in it is the reason of a failure, and so
is that there is no such field. -/
def strictFlag (name field : String) : Specification α :=
  ofTest name fun entity =>
    match Record.field? entity field with
    | some (.bool b) => .ok b
    | some (.text reason) => .error (.predicate reason)
    | some _ => .ok false
    | .none => .error (.predicate ("missing " ++ field))

end Quarry.Specification
