import Quarry.Filter.Json

/-!
# Specifications

A specification is a predicate on entities that can be combined with others by "and", "or" and
"not". It is a boolean formula whose leaves are of two kinds: criteria, which are data, and
predicates that are functions of the program and have no more than a name to show. A criterion
becomes a leaf only if it is well formed.

A specification without predicates is a filter in another form. `Specification.toFilter?` gives that
filter back, `Specification.ofFilter` goes the other way, and `Specification.ofJson` reads the
filter from its stored form first.
-/

namespace Quarry

/-- A leaf of a specification of entities of type `α`. -/
inductive SpecificationLeaf (α : Type) where
  /-- A function of the program, which may fail. The name is for error texts only. -/
  | predicate (name : String) (test : α → Except EvaluationError Bool)
  | criterion (c : Criterion) (valid : c.IsValid)

/-- A predicate on entities of type `α`. -/
abbrev Specification (α : Type) := Formula (SpecificationLeaf α)

namespace SpecificationLeaf

variable {α : Type}

/-- The test of `entity` that a leaf makes. -/
def test [Record α] (entity : α) : SpecificationLeaf α → Except EvaluationError Bool
  | .predicate _ test => test entity
  | .criterion c _ => c.evaluate entity

/-- The criterion of a leaf, unless it is a predicate. -/
def criterion? : SpecificationLeaf α → Option Criterion
  | .predicate _ _ => none
  | .criterion c _ => some c

/-- The name of a leaf that is a predicate. -/
def predicateName? : SpecificationLeaf α → Option String
  | .predicate name _ => some name
  | .criterion _ _ => none

/-- The name of a predicate, or the text of a criterion. -/
def render : SpecificationLeaf α → String
  | .predicate name _ => if name = "" then "<predicate>" else name
  | .criterion c _ => c.render

/-- The leaf of the criterion `c`, which has to be well formed (`Criterion.validate`). -/
def ofCriterion (c : Criterion) : Except ArgumentError (SpecificationLeaf α) :=
  match h : c.validate with
  | .ok () => .ok (.criterion c h)
  | .error e => .error e

end SpecificationLeaf

namespace Specification

variable {α : Type}

/-! ## Building -/

/-- The specification that every entity satisfies. -/
def all : Specification α := .const true

/-- The specification that no entity satisfies. -/
def none : Specification α := .const false

/-- The predicate `test`, which may fail, under `name`. -/
def ofTest (name : String) (test : α → Except EvaluationError Bool) : Specification α :=
  .leaf (.predicate name test)

/-- The predicate `p`, which cannot fail, under `name`. -/
def ofPredicate (name : String) (p : α → Bool) : Specification α :=
  ofTest name fun entity => .ok (p entity)

/-- Both `s` and the negation of `t`. -/
def andNot (s t : Specification α) : Specification α :=
  s.and t.not

/-- The single criterion `c`, which has to be well formed. -/
def ofCriterion (c : Criterion) : Except ArgumentError (Specification α) :=
  (SpecificationLeaf.ofCriterion c).map .leaf

/-- The filter `f`, all of whose criteria have to be well formed; the leftmost one that is not is
reported. -/
def ofFilter (f : Filter) : Except ArgumentError (Specification α) :=
  f.mapM SpecificationLeaf.ofCriterion

/-- The filter whose stored form is `j`. Null is the absence of a filter. -/
def ofJson (j : Json) : Except ArgumentError (Specification α) :=
  if j.isNull then .error .predicateAbsent
  else
    match Filter.decode j with
    | .ok f => ofFilter f
    | .error e => .error (.malformedFilter e)

/-! ## Evaluation -/

/-- Whether `entity` satisfies `s`, or the failure of the last leaf that is tested. -/
def isSatisfiedBy [Record α] (s : Specification α) (entity : α) : Except EvaluationError Bool :=
  s.eval (SpecificationLeaf.test entity)

/-- The names of the predicates that are called to decide about `entity`, in order. -/
def calls [Record α] (s : Specification α) (entity : α) : List String :=
  (s.visited (SpecificationLeaf.test entity)).filterMap SpecificationLeaf.predicateName?

/-- Those of `entities` that satisfy `s`, in their order. The first failure ends the search. -/
def select [Record α] (s : Specification α) (entities : List α) : Except EvaluationError (List α) :=
  Formula.select SpecificationLeaf.test s entities

/-- The number of `entities` that satisfy `s`. The first failure ends the count. -/
def count [Record α] (s : Specification α) (entities : List α) : Except EvaluationError Nat :=
  Formula.count SpecificationLeaf.test s entities

/-- The names of the predicates that are called to select from `entities`, in order. -/
def selectCalls [Record α] (s : Specification α) (entities : List α) : List String :=
  (s.selectVisited SpecificationLeaf.test entities).filterMap SpecificationLeaf.predicateName?

/-! ## Data -/

/-- The filter that `s` is, if it is made without predicates. -/
def toFilter? (s : Specification α) : Option Filter :=
  s.mapM SpecificationLeaf.criterion?

/-- The specification `s` has no predicates. -/
def isFilter (s : Specification α) : Bool :=
  s.toFilter?.isSome

/-- The text of a specification. -/
def render (s : Specification α) : String :=
  Formula.render SpecificationLeaf.render s

/-- The text of a specification, marked as one. -/
def describe (s : Specification α) : String :=
  "Specification(" ++ s.render ++ ")"

end Specification

end Quarry
