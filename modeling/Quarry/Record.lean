import Quarry.Text.Search
import Quarry.Value.Json

/-!
# Records

A record is anything with named fields. A name that the record does not have is not the same as a
field that is null. JSON documents are records whose names are paths: the parts between the dots
lead through nested objects, and since documents have no fixed fields, a key that is missing from an
object reads as null.
-/

namespace Quarry

/-- Types `α` of things with named fields. -/
class Record (α : Type) where
  /-- The value of a field, or none if there is no field of this name. -/
  field? : α → String → Option Value

/-- Pairs of names and values; of two pairs with one name the first counts. -/
instance : Record (List (String × Value)) where
  field? fields name := fields.lookup name

/-- The value at the end of a path through nested objects. A key that an object lacks counts as
`null` under it, and anything else than an object has no value further on. -/
def Json.valueAt? : List String → Json → Option Value
  | [], node => Value.ofJson? node
  | key :: path, .object members =>
    match member? key members with
    | some node => valueAt? path node
    | none => some .null
  | _ :: _, _ => none

/-- Documents read their fields by dotted paths (`Json.valueAt?`). -/
instance : Record Json where
  field? document name := document.valueAt? (Text.split '.' name)

end Quarry
