import Quarry.Criterion
import Quarry.Formula

/-!
# Filters

A filter is a boolean formula over criteria. It is plain data: it can be stored, shown, evaluated
against any record and turned into the query of a database.
-/

namespace Quarry

/-- A boolean formula over criteria, which unlike a `Specification` can be stored. -/
abbrev Filter := Formula Criterion

namespace Filter

/-- Checks every criterion of `f` from left to right and reports the first fault
(`Criterion.validate`). -/
def validate (f : Filter) : Except ArgumentError Unit :=
  f.check Criterion.validate

/-- Whether `record` passes the filter `f`. -/
def evaluate {α : Type} [Record α] (f : Filter) (record : α) : Except EvaluationError Bool :=
  f.eval (·.evaluate record)

/-- Those of `records` that pass the filter `f`, in their order. The first failure ends the search.
-/
def select {α : Type} [Record α] (f : Filter) (records : List α) :
    Except EvaluationError (List α) :=
  Formula.select (fun record c => c.evaluate record) f records

/-- The number of `records` that pass the filter `f`. The first failure ends the count. -/
def count {α : Type} [Record α] (f : Filter) (records : List α) : Except EvaluationError Nat :=
  Formula.count (fun record c => c.evaluate record) f records

/-- Puts `name` at the end of `names` unless it is one of them. -/
def addName (names : List String) (name : String) : List String :=
  if names.contains name then names else names ++ [name]

/-- The names of the fields that `f` is about, each at the place of its first occurrence. -/
def fields (f : Filter) : List String :=
  f.foldl (fun names c => addName names c.field) []

/-- The text of a filter. -/
def render (f : Filter) : String :=
  Formula.render Criterion.render f

end Filter

end Quarry
