import Quarry.Error
import Quarry.Record

/-!
# Orderings of entities

An ordering sorts entities by a key that is read from each of them, upward or downward. Sorting is
stable in both directions: entities with equal keys keep the order in which they came. The name of
the ordering is that of the field which a database would sort by.
-/

namespace Quarry

/-- A direction of sorting. -/
inductive SortDirection where
  | ascending
  | descending
deriving DecidableEq, Repr

namespace SortDirection

/-- The name of a direction. -/
def name : SortDirection → String
  | .ascending => "ascending"
  | .descending => "descending"

/-- The name of a direction as a value of its type is shown. -/
def describe : SortDirection → String
  | .ascending => "Ascending"
  | .descending => "Descending"

/-- Reads a direction from the text `s` of a user: the name or its start, in any case, between
blanks. -/
def read (s : String) : Except ArgumentError SortDirection :=
  let word := Text.asciiLower (Text.trim s)
  if word = "asc" ∨ word = "ascending" then .ok .ascending
  else if word = "desc" ∨ word = "descending" then .ok .descending
  else .error (.sortDirection word)

/-- Reads a direction from its stored form, the exact `name`. -/
def decode (j : Json) : Except DecodeError SortDirection := do
  let known := [ascending.name, descending.name]
  let (tag, content) ← Json.decodeVariant known j
  let direction := if tag = ascending.name then ascending else descending
  (Json.noContent content).map fun _ => direction

/-- The order of two keys in a direction, by `Value.sortCompare`. -/
def compareKeys : SortDirection → Value → Value → Ordering
  | .ascending, a, b => a.sortCompare b
  | .descending, a, b => b.sortCompare a

end SortDirection

/-- A `key` to sort entities by, which `field` names, and a `direction`. -/
structure OrderBy (α : Type) where
  field : String
  direction : SortDirection
  key : α → Except EvaluationError Value

namespace OrderBy

variable {α : Type}

/-- Sorts by `key`, which every entity has. -/
def byKey (field : String) (direction : SortDirection) (key : α → Value) : OrderBy α :=
  ⟨field, direction, fun entity => .ok (key entity)⟩

/-- Sorts by `field`, which every entity has to have. -/
def byField [Record α] (field : String) (direction : SortDirection) : OrderBy α where
  field
  direction
  key entity :=
    match Record.field? entity field with
    | some v => .ok v
    | none => .error (.unknownField field)

/-- Sorts by `field`, which an entity may lack; such an entity counts as having null in it. -/
def byOptionalField [Record α] (name field : String) (direction : SortDirection) : OrderBy α :=
  byKey name direction fun entity => (Record.field? entity field).getD .null

/-- Pairs each entity with its key by `o`. The first key that cannot be read is reported. -/
def keyed (o : OrderBy α) : List α → Except EvaluationError (List (Value × α))
  | [] => .ok []
  | entity :: rest =>
    match o.key entity with
    | .error e => .error e
    | .ok k => (keyed o rest).map ((k, entity) :: ·)

/-- Sorts `pairs` of keys and entities by the keys. Pairs with equal keys keep their order. -/
def sortKeyed (direction : SortDirection) (pairs : List (Value × α)) : List (Value × α) :=
  pairs.mergeSort fun a b => (direction.compareKeys a.1 b.1).isLE

/-- Sorts `entities` by their keys. Those with equal keys keep their order. -/
def sort (o : OrderBy α) (entities : List α) : Except EvaluationError (List α) :=
  (o.keyed entities).map fun pairs => (sortKeyed o.direction pairs).map Prod.snd

/-- The text of an ordering. -/
def describe (o : OrderBy α) : String :=
  "OrderBy \x7b field: " ++ Text.quote o.field ++ ", direction: " ++ o.direction.describe ++
    ", .. \x7d"

end OrderBy

end Quarry
