import Quarry.Binary64.Rounding
import Quarry.Binary64.Shortest
import Quarry.Text.Quoted
import Quarry.Timestamp.Rfc3339
import Quarry.Uuid

/-!
# Field values

The values that fields of records have and that criteria compare them with. Two orders on them serve
two purposes. `Value.compare` is what a criterion asks: it may find two values incomparable, it
finds null in no order with any other value, and it reads a text as an identifier or a timestamp
where the other side is one. `Value.sortCompare` is what sorting needs: a linear order of all values
that goes by type first and never reads a text.
-/

namespace Quarry

/-- The types of values. -/
inductive ValueType where
  | null
  | bool
  | int
  | float
  | uuid
  | timestamp
  | text
  | list
deriving DecidableEq, Repr

/-- The name under which error texts mention a type. -/
def ValueType.name : ValueType → String
  | .null => "null"
  | .bool => "bool"
  | .int => "int"
  | .float => "float"
  | .uuid => "uuid"
  | .timestamp => "timestamp"
  | .text => "text"
  | .list => "list"

/-- The value of a field. -/
inductive Value where
  | null
  | bool (b : Bool)
  | int (n : Int64)
  | float (x : Binary64)
  | uuid (u : Uuid)
  | timestamp (t : Timestamp)
  | text (s : String)
  | list (items : List Value)

namespace Value

instance : Inhabited Value := ⟨.null⟩

/-- The `ValueType` of a value. -/
def type : Value → ValueType
  | .null => .null
  | .bool _ => .bool
  | .int _ => .int
  | .float _ => .float
  | .uuid _ => .uuid
  | .timestamp _ => .timestamp
  | .text _ => .text
  | .list _ => .list

/-- Whether the value is `null`. -/
def isNull : Value → Bool
  | .null => true
  | _ => false

/-- The items of a `list`, and `none` for any other value. -/
def items? : Value → Option (List Value)
  | .list items => some items
  | _ => none

/-- The value that `f` makes of what is there, or null. -/
def ofOption (f : α → Value) : Option α → Value
  | some a => f a
  | none => .null

/-! ## Comparing -/

/-- The types of a pair of values that cannot be compared, `left` and `right`. -/
structure Incomparable where
  left : ValueType
  right : ValueType
deriving DecidableEq, Repr

/-- The order of `u` and the text `s`: as identifiers if the text is one, else as texts. -/
def compareUuidText (u : Uuid) (s : String) : Ordering :=
  match Uuid.ofChars? s.toList with
  | some v => Ord.compare u v
  | none => Ord.compare u.render s

/-- The order of `t` and the text `s`: as moments if the text is one, else as texts. -/
def compareTimestampText (t : Timestamp) (s : String) : Ordering :=
  match Timestamp.readStrict s with
  | .ok v => Ord.compare t v
  | .error _ => Ord.compare t.render s

/-- The order that a criterion asks for. It is `none` if just one of the values is `null` or one is
a NaN, so that they are in no order. -/
def compare : Value → Value → Except Incomparable (Option Ordering)
  | .null, .null => .ok (some .eq)
  | .null, _ => .ok none
  | _, .null => .ok none
  | .bool a, .bool b => .ok (some (Ord.compare a b))
  | .int a, .int b => .ok (some (Ord.compare a.toInt b.toInt))
  | .float x, .float y => .ok (x.partialCompare y)
  | .int a, .float y => .ok ((Binary64.ofInt a.toInt).partialCompare y)
  | .float x, .int b => .ok (x.partialCompare (Binary64.ofInt b.toInt))
  | .text s, .text t => .ok (some (Ord.compare s t))
  | .uuid u, .uuid v => .ok (some (Ord.compare u v))
  | .uuid u, .text s => .ok (some (compareUuidText u s))
  | .text s, .uuid u => .ok (some (compareUuidText u s).swap)
  | .timestamp t, .timestamp v => .ok (some (Ord.compare t v))
  | .timestamp t, .text s => .ok (some (compareTimestampText t s))
  | .text s, .timestamp t => .ok (some (compareTimestampText t s).swap)
  | a, b => .error ⟨a.type, b.type⟩

/-! ## Sorting -/

/-- The place of a value's type in the order of types. An `int` and a `float` share one, as numbers.
-/
def rank : Value → Nat
  | .null => 0
  | .bool _ => 1
  | .int _ => 2
  | .float _ => 2
  | .uuid _ => 3
  | .timestamp _ => 4
  | .text _ => 5
  | .list _ => 6

mutual

/-- The order in which values are sorted. Values of different types go by `rank`, and two values of
one type by the order of that type; floats go by `totalCompare`, the order of all bit patterns. Next
to a `float` an `int` goes by the float that is nearest to it, and precedes that one. Lists go item
by item, by `sortCompareItems`. -/
def sortCompare : Value → Value → Ordering
  | .bool a, .bool b => Ord.compare a b
  | .int a, .int b => Ord.compare a.toInt b.toInt
  | .int a, .float y => ((Binary64.ofInt a.toInt).totalCompare y).then .lt
  | .float x, .int b => (x.totalCompare (Binary64.ofInt b.toInt)).then .gt
  | .float x, .float y => x.totalCompare y
  | .uuid u, .uuid v => Ord.compare u v
  | .timestamp t, .timestamp v => Ord.compare t v
  | .text s, .text t => Ord.compare s t
  | .list as, .list bs => sortCompareItems as bs
  | a, b => Ord.compare a.rank b.rank

/-- The first difference between two lists decides, by `sortCompare`, and a list precedes its
continuations. -/
def sortCompareItems : List Value → List Value → Ordering
  | [], [] => .eq
  | [], _ :: _ => .lt
  | _ :: _, [] => .gt
  | a :: as, b :: bs => (sortCompare a b).then (sortCompareItems as bs)

end

/-! ## Text -/

mutual

/-- The text of a value in a rendered `Criterion`. -/
def render : Value → String
  | .null => "null"
  | .bool true => "true"
  | .bool false => "false"
  | .int n => toString n.toInt
  | .float x => x.positional
  | .uuid u => u.render
  | .timestamp t => t.render
  | .text s => Text.quote s
  | .list items => "[" ++ String.intercalate ", " (renderItems items) ++ "]"

/-- The texts of a list of values. -/
def renderItems : List Value → List String
  | [] => []
  | v :: vs => render v :: renderItems vs

end

end Value

end Quarry
