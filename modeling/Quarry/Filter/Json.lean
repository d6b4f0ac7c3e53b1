import Quarry.Filter

/-!
# Stored filters

The JSON form of criteria and filters. A criterion is an object with the keys `field`, `op` and, if
it has an operand, `value`; a missing value and null both mean that there is no operand. A filter is
an object whose one key says what it is.
-/

namespace Quarry

/-! ## Criteria -/

/-- The operator `op` as JSON, by its name. -/
def Operator.encode (op : Operator) : Json :=
  .string op.name

/-- Reads an operator from its name, which may stand for a variant without content. -/
def Operator.decode (j : Json) : Except DecodeError Operator := do
  let known := all.map name
  let (tag, content) ← Json.decodeVariant known j
  match ofName? tag with
  | some op => (Json.noContent content).map fun _ => op
  | none => .error (.unknownVariant tag known)

namespace Criterion

/-- The criterion `c` as JSON. There is a `value` only if there is an operand. -/
def encode (c : Criterion) : Json :=
  let operand := match c.operand with
    | some v => [("value", v.encode)]
    | none => []
  .object (("field", .string c.field) :: ("op", c.op.encode) :: operand)

/-- Reads a criterion from `members` of an object. A `value` that is null is no operand. -/
def ofMembers (members : List (String × Json)) : Except DecodeError Criterion := do
  let field ← Json.decodeMember members "field" Json.decodeString
  let op ← Json.decodeMember members "op" Operator.decode
  let operand ← Json.decodeMember members "value" (Json.decodeOption Value.decode)
  let field ← Json.requireField "field" field
  let op ← Json.requireField "op" op
  .ok ⟨field, op, operand.getD none⟩

/-- Reads a criterion from the items of an array, where the operand may be missing. -/
def ofItems (items : List Json) : Except DecodeError Criterion := do
  let expected := "struct Criterion with 3 elements"
  let field ← Json.decodeItem items 0 expected Json.decodeString
  let op ← Json.decodeItem items 1 expected Operator.decode
  let operand ← match items[2]? with
    | some j => Json.decodeOption Value.decode j
    | none => .ok none
  Json.requireNoMore items 3
  .ok ⟨field, op, operand⟩

/-- Reads a criterion from an object (`ofMembers`) or an array (`ofItems`). -/
def decode (j : Json) : Except DecodeError Criterion :=
  Json.decodeRecord "Criterion" ofMembers ofItems j

end Criterion

/-! ## Filters -/

namespace Filter

/-- The names of the forms of a filter, in the order in which errors list them. -/
def variants : List String := ["always", "where", "and", "or", "not"]

/-- The filter as a JSON object with a single member, under one of `variants`. -/
def encode : Filter → Json
  | .const b => .object [("always", .bool b)]
  | .leaf c => .object [("where", c.encode)]
  | .and a b => .object [("and", .array [encode a, encode b])]
  | .or a b => .object [("or", .array [encode a, encode b])]
  | .not a => .object [("not", encode a)]

mutual

/-- Reads a filter from an object with a single member, under one of `variants`. -/
def decode : Json → Except DecodeError Filter
  | .object [(tag, content)] =>
    if tag = "always" then (Json.decodeBool content).map .const
    else if tag = "where" then (Criterion.decode content).map .leaf
    else if tag = "not" then (decode content).map .not
    else if tag = "and" then (decodePair "Filter::And" content).map fun (a, b) => .and a b
    else if tag = "or" then (decodePair "Filter::Or" content).map fun (a, b) => .or a b
    else .error (.unknownVariant tag variants)
  | j =>
    match Json.decodeVariant variants j with
    | .error e => .error e
    | .ok (tag, _) =>
      .error (.invalidType .bareVariant
        (if tag = "and" ∨ tag = "or" then "tuple variant" else "newtype variant"))
termination_by structural j => j

/-- Reads the two parts of a filter that joins two. The form is called `name` in errors. -/
def decodePair (name : String) : Json → Except DecodeError (Filter × Filter)
  | .array [] => Json.wrongType .null ("tuple variant " ++ name)
  | .array [a] =>
    match decode a with
    | .error e => .error e
    | .ok _ => .error (.invalidLength 1 ("tuple variant " ++ name ++ " with 2 elements"))
  | .array (a :: b :: rest) =>
    match decode a with
    | .error e => .error e
    | .ok a =>
      match decode b with
      | .error e => .error e
      | .ok b =>
        match Json.requireNoMore (.null :: .null :: rest) 2 with
        | .error e => .error e
        | .ok () => .ok (a, b)
  | j => Json.wrongType j "tuple variant"
termination_by structural j => j

end

end Filter

end Quarry
