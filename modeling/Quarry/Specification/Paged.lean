import Quarry.Ordering
import Quarry.Page
import Quarry.Specification

/-!
# Paged specifications

A specification together with an ordering and a page: which entities, in which order, and which of
them. The three steps of executing it on a list are selection, stable sorting and cutting.
-/

namespace Quarry

/-- A query for one page of entities: the `specification` says which ones, the `order` in which
order, and the `page` which part of them. -/
structure PagedSpecification (α : Type) where
  specification : Specification α
  order : OrderBy α
  page : Page

namespace PagedSpecification

variable {α : Type}

/-- A query for the page of `index` and `size` that a caller asks for. -/
def ofInts (specification : Specification α) (order : OrderBy α) (index size : Int64) :
    Except ArgumentError (PagedSpecification α) :=
  (Page.ofInts index size).map fun page => ⟨specification, order, page⟩

/-- The rows of the page. -/
def range (p : PagedSpecification α) : RowRange :=
  p.page.range

/-- The query `p` for the next page (`Page.next?`). -/
def nextPage? (p : PagedSpecification α) : Option (PagedSpecification α) :=
  p.page.next?.map fun page => ⟨p.specification, p.order, page⟩

/-- The given query and those for the pages after it by `nextPage?`, at most a given number of
queries. -/
def pages : Nat → PagedSpecification α → List (PagedSpecification α)
  | 0, _ => []
  | n + 1, p =>
    p :: match p.nextPage? with
      | some next => pages n next
      | none => []

/-- The page of the entities `selected`, which are known to satisfy the specification. -/
def window (p : PagedSpecification α) (selected : List α) : Except EvaluationError (List α) :=
  (p.order.sort selected).map p.range.cut

/-- The page of those of `entities` that satisfy the specification. -/
def applyTo [Record α] (p : PagedSpecification α) (entities : List α) :
    Except EvaluationError (List α) :=
  match p.specification.select entities with
  | .ok selected => p.window selected
  | .error e => .error e

/-- The text of a query. -/
def describe (p : PagedSpecification α) : String :=
  "PagedSpecification \x7b specification: " ++ p.specification.describe ++ ", order: " ++
    p.order.describe ++ ", page: " ++ p.page.describe ++ " \x7d"

end PagedSpecification

end Quarry
