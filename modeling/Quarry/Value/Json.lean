import Quarry.Json.Decode
import Quarry.Value

/-!
# Values as JSON

A value is written as the plain JSON value that it is; identifiers and timestamps become texts, and
numbers that are not finite become null. Two readings go back. A field of a stored document is read
by `Value.ofJson?`, the operand of a stored filter by `Value.decode`. Neither can tell an identifier
from a text, so both leave texts as they are, and neither accepts an object, at the top or inside a
list.
-/

namespace Quarry.Value

mutual

/-- A value as JSON. Identifiers and moments become texts, and a `float` that is not finite becomes
`null`. -/
def encode : Value → Json
  | .null => .null
  | .bool b => .bool b
  | .int n => .ofInt64 n
  | .float x => .ofBinary64 x
  | .uuid u => .string u.render
  | .timestamp t => .string t.renderZulu
  | .text s => .string s
  | .list items => .array (encodeItems items)

/-- The values of a list as JSON. -/
def encodeItems : List Value → List Json
  | [] => []
  | v :: vs => encode v :: encodeItems vs

end

/-- The value of the number `n` of a document: an integer if it fits in 64 bits with a sign. -/
def ofJsonNumber (n : JsonNumber) : Value :=
  match n with
  | .integer i _ _ => if i < 2 ^ 63 then .int (Int64.ofInt i) else .float n.toBinary64
  | .real x _ => .float x

mutual

/-- The value of a field of a document. It is `none` for an object, and for a list with an object
inside. -/
def ofJson? : Json → Option Value
  | .null => some .null
  | .bool b => some (.bool b)
  | .number n => some (ofJsonNumber n)
  | .string s => some (.text s)
  | .array items => (ofJsonItems? items).map .list
  | .object _ => none

/-- The values of the items of a list. -/
def ofJsonItems? : List Json → Option (List Value)
  | [] => some []
  | j :: js =>
    match ofJson? j, ofJsonItems? js with
    | some v, some vs => some (v :: vs)
    | _, _ => none

end

/-- The value that is read of `j` if it is no list: the first of the alternatives that fits. -/
def decodePlain (j : Json) : Option Value :=
  let null : Option Value := if j.isNull then some .null else none
  null
    <|> (Json.decodeBool j).toOption.map .bool
    <|> (Json.decodeInt64 j).toOption.map .int
    <|> (Json.decodeBinary64 j).toOption.map .float
    <|> (Json.decodeString j).toOption.map .text

mutual

/-- Reads an operand: a list of operands, or what `decodePlain` reads. -/
def decode : Json → Except DecodeError Value
  | .array items =>
    match decodeItems items with
    | .ok vs => .ok (.list vs)
    | .error _ => .error .notAValue
  | j =>
    match decodePlain j with
    | some v => .ok v
    | none => .error .notAValue

/-- Reads the items of a list of operands. -/
def decodeItems : List Json → Except DecodeError (List Value)
  | [] => .ok []
  | j :: js =>
    match decode j with
    | .error e => .error e
    | .ok v => (decodeItems js).map (v :: ·)

end

end Quarry.Value
