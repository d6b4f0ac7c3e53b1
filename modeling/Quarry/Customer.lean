import Quarry.Aggregate
import Quarry.Customer.Event
import Quarry.Record

/-!
# Customers

A customer as an aggregate: the profile, and the fields of it that specifications can name. The
address and the note are no such fields.
-/

namespace Quarry

/-- Where a customer lives. -/
structure Address where
  city : String
  /-- The zip code, if the place has one. -/
  zip : Option String
deriving DecidableEq

/-- What is known about a customer: the state of the aggregate `Customer`. -/
structure CustomerProfile where
  firstName : String
  /-- The zip code of the customer, if it is known. -/
  zipCode : Option String
  isVip : Bool
  age : Int64
  score : Binary64
  tags : List String
  /-- When the customer joined, if it is known. -/
  joinedAt : Option Timestamp
  address : Option Address
  note : String

/-- A customer: an aggregate with a `CustomerProfile` and pending `CustomerEvent`s. -/
abbrev Customer := Aggregate CustomerProfile CustomerEvent

instance : AggregateKind CustomerProfile := ⟨"customer"⟩

/-- The profile of a customer about whom nothing is known. -/
def CustomerProfile.blank : CustomerProfile where
  firstName := ""
  zipCode := none
  isVip := false
  age := 0
  score := Binary64.ofInt 0
  tags := []
  joinedAt := none
  address := none
  note := ""

/-! ## Fields -/

/-- The text as a value, or `null` if there is none. -/
def Value.ofOptionalText : Option String → Value
  | some s => .text s
  | none => .null

/-- The field `name` of the customer `c`, if specifications can name it. -/
def Customer.field? (c : Customer) (name : String) : Option Value :=
  match name with
  | "id" => some (.uuid c.id.uuid)
  | "first_name" => some (.text c.state.firstName)
  | "zip_code" => some (.ofOptionalText c.state.zipCode)
  | "is_vip" => some (.bool c.state.isVip)
  | "age" => some (.int c.state.age)
  | "score" => some (.float c.state.score)
  | "tags" => some (.list (c.state.tags.map .text))
  | "joined_at" =>
    some (match c.state.joinedAt with
      | some t => .timestamp t
      | none => .null)
  | "version" => some (.int c.version.toInt64)
  | _ => none

instance : Record Customer := ⟨Customer.field?⟩

end Quarry
