import Quarry.Specification.Paged
import Quarry.Sql.Query

/-!
# Repositories in a database

A repository in a database answers queries by statements. A specification can be asked only if all
of it can be expressed in SQL; nothing is loaded to be tested by the program. The connections to the
database are outside of this library: executing a statement is a parameter, and `closedConnections`
is what is left of it once the connections are closed.
-/

namespace Quarry.Sql

/-- A table of entities, which statements are made for by its `mapping`. -/
structure Repository where
  mapping : TableMapping

namespace Repository

variable {α : Type}

/-- The filter that `s` is; it must not have predicates. -/
def filterOf (r : Repository) (s : Specification α) : Except RepositoryError Filter :=
  match s.toFilter? with
  | some f => .ok f
  | none => .error (.inexpressible (.predicate s.render r.mapping.table.text))

/-- The statement for the entities that satisfy `s`. -/
def findStatement (r : Repository) (s : Specification α) : Except RepositoryError Statement := do
  let f ← r.filterOf s
  select r.mapping f none none

/-- The statement for the page `p` of the entities that satisfy its specification. -/
def pageStatement (r : Repository) (p : PagedSpecification α) :
    Except RepositoryError Statement := do
  let f ← r.filterOf p.specification
  select r.mapping f (some ⟨p.order.field, p.order.direction⟩) (some p.range)

/-- The statement for the number of entities that satisfy `s`. -/
def countStatement (r : Repository) (s : Specification α) : Except RepositoryError Statement := do
  let f ← r.filterOf s
  count r.mapping f

/-- What comes of a statement over connections that are closed. -/
def closedConnections (_ : Statement) : Except RepositoryError β :=
  .error (.backend "attempted to acquire a connection on a closed pool")

/-- The text of a repository. -/
def describe (r : Repository) : String :=
  "PostgresRepository \x7b table: " ++ Text.quote r.mapping.table.text ++ ", .. \x7d"

end Repository

end Quarry.Sql
