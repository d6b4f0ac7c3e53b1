import Quarry.Proofs.Value.Numbers

/-!
# Comparing from either side

Two values of different types can be compared if one of them can be taken for a value of the type of
the other one: an integer for a number, a text for the identifier or the moment that it is the text
of, and an identifier or a moment for its text next to any other text (`Value.nextTo`). The two
values are then compared as values of one type, so it does not matter which of them is on the left.
With the sides exchanged a comparison fails as before, or finds no order as before, or finds the
reverse order (`Value.compare_isTwoSided`).
-/

namespace Quarry

/-- Whether there is a type as whose values those of the two types can be compared. Null needs none.
-/
def ValueType.meets : ValueType → ValueType → Bool
  | .null, _ => true
  | _, .null => true
  | .list, _ => false
  | .int, .float => true
  | .float, .int => true
  | .uuid, .text => true
  | .text, .uuid => true
  | .timestamp, .text => true
  | .text, .timestamp => true
  | s, t => s = t

namespace Value

/-- Whether the value is a NaN. -/
def isNaN : Value → Bool
  | .float x => x.isNaN
  | _ => false

/-- Whether just one of `a` and `b` is null, or one of them is a NaN. -/
def lacksOrder (a b : Value) : Bool :=
  a.isNull != b.isNull || a.isNaN || b.isNaN

/-- The same pair of types, seen from the other side. -/
def Incomparable.swap (types : Incomparable) : Incomparable :=
  ⟨types.right, types.left⟩

/-- What the first value is taken for next to the second one: an integer for the float that is
nearest to it, and a text for the identifier or moment that it names. Next to a text that names
none, an identifier or moment is taken for its own text. -/
def nextTo : Value → Value → Value
  | .int n, .float _ => .float (Binary64.ofInt n.toInt)
  | .text s, .uuid _ =>
    match Uuid.ofChars? s.toList with
    | some u => .uuid u
    | none => .text s
  | .uuid u, .text s =>
    match Uuid.ofChars? s.toList with
    | some _ => .uuid u
    | none => .text u.render
  | .text s, .timestamp _ =>
    match Timestamp.readStrict s with
    | .ok t => .timestamp t
    | .error _ => .text s
  | .timestamp t, .text s =>
    match Timestamp.readStrict s with
    | .ok _ => .timestamp t
    | .error _ => .text t.render
  | a, _ => a

/-! ## What comes of a comparison -/

theorem isNaN_ofInt (n : Int64) : (Binary64.ofInt n.toInt).isNaN = false :=
  Binary64.isNaN_eq_false_of_isFinite (Binary64.isNearestEven_ofInt (natAbs_toInt_lt n)).finite

/-- The types decide whether a comparison fails, and then `lacksOrder` whether it finds an order. -/
theorem exists_compare_eq (a b : Value) :
    ∃ o, a.compare b =
      if a.type.meets b.type then .ok (if a.lacksOrder b then none else some o)
      else .error ⟨a.type, b.type⟩ := by
  cases a <;> cases b
  case int.float n y =>
    refine ⟨Ord.compare (Binary64.ofInt n.toInt).scaled y.scaled, ?_⟩
    show Except.ok ((Binary64.ofInt n.toInt).partialCompare y) = _
    rw [Binary64.partialCompare, isNaN_ofInt]
    rfl
  case float.int x n =>
    refine ⟨Ord.compare x.scaled (Binary64.ofInt n.toInt).scaled, ?_⟩
    show Except.ok (x.partialCompare (Binary64.ofInt n.toInt)) = _
    rw [Binary64.partialCompare, isNaN_ofInt]
    rfl
  all_goals first | exact ⟨_, rfl⟩ | exact ⟨.eq, rfl⟩

/-- A comparison fails, or finds no order, or finds one. -/
theorem compare_cases (a b : Value) :
    (a.type.meets b.type = false ∧ a.compare b = .error ⟨a.type, b.type⟩) ∨
      (a.type.meets b.type = true ∧ a.lacksOrder b = true ∧ a.compare b = .ok none) ∨
      (a.type.meets b.type = true ∧ a.lacksOrder b = false ∧ ∃ o, a.compare b = .ok (some o)) := by
  obtain ⟨o, ho⟩ := exists_compare_eq a b
  rw [ho]
  cases a.type.meets b.type <;> cases a.lacksOrder b <;> simp

variable {a b : Value}

theorem exists_compare_eq_error_iff :
    (∃ types, a.compare b = .error types) ↔ a.type.meets b.type = false := by
  rcases compare_cases a b with ⟨htypes, h⟩ | ⟨htypes, -, h⟩ | ⟨htypes, -, o, h⟩ <;>
    simp [htypes, h]

theorem compare_eq_none_iff :
    a.compare b = .ok none ↔ a.type.meets b.type = true ∧ a.lacksOrder b = true := by
  rcases compare_cases a b with ⟨htypes, h⟩ | ⟨htypes, hlacks, h⟩ | ⟨htypes, hlacks, o, h⟩
  · simp [htypes, h]
  · simp [htypes, hlacks, h]
  · simp [hlacks, h]

/-! ## The two sides -/

/-- With the sides exchanged a comparison comes to the reverse of what it came to. -/
theorem compare_swap (a b : Value) :
    b.compare a = ((a.compare b).map (Option.map Ordering.swap)).mapError Incomparable.swap := by
  have hsome {o o' : Ordering} (h : o = o'.swap) :
      (Except.ok (some o) : Except Incomparable _) = .ok (some o'.swap) := by rw [h]
  cases a <;> cases b
  case bool.bool b c => exact hsome Std.OrientedCmp.eq_swap
  case int.int m n => exact hsome Std.OrientedCmp.eq_swap
  case int.float n y => exact congrArg Except.ok (Binary64.partialCompare_swap _ _)
  case float.int x n => exact congrArg Except.ok (Binary64.partialCompare_swap _ _)
  case float.float x y => exact congrArg Except.ok (Binary64.partialCompare_swap _ _)
  case uuid.uuid u v => exact hsome Std.OrientedCmp.eq_swap
  case timestamp.timestamp t v => exact hsome (Timestamp.compare_swap t v).symm
  case text.text s t => exact hsome Std.OrientedCmp.eq_swap
  -- The text on the left is compared by a comparison from the right, which is reversed twice here.
  case text.uuid s u => exact hsome Ordering.swap_swap.symm
  case text.timestamp s t => exact hsome Ordering.swap_swap.symm
  all_goals rfl

theorem compare_of_error {types : Incomparable} (h : a.compare b = .error types) :
    b.compare a = .error types.swap := by
  rw [compare_swap, h]
  rfl

theorem compare_of_ok {r : Option Ordering} (h : a.compare b = .ok r) :
    b.compare a = .ok (r.map Ordering.swap) := by
  rw [compare_swap, h]
  rfl

/-- Two values are compared as what they are taken for next to each other. -/
theorem compare_nextTo (a b : Value) : (a.nextTo b).compare (b.nextTo a) = a.compare b := by
  have hswap {a b : Value} (h : (a.nextTo b).compare (b.nextTo a) = a.compare b) :
      (b.nextTo a).compare (a.nextTo b) = b.compare a := by
    rw [compare_swap, h, ← compare_swap]
  have huuid (u : Uuid) (s : String) :
      ((uuid u).nextTo (text s)).compare ((text s).nextTo (uuid u)) =
        (uuid u).compare (text s) := by
    show _ = Except.ok (some (compareUuidText u s))
    rw [nextTo, nextTo, compareUuidText]
    cases Uuid.ofChars? s.toList <;> rfl
  have htimestamp (t : Timestamp) (s : String) :
      ((timestamp t).nextTo (text s)).compare ((text s).nextTo (timestamp t)) =
        (timestamp t).compare (text s) := by
    show _ = Except.ok (some (compareTimestampText t s))
    rw [nextTo, nextTo, compareTimestampText]
    cases Timestamp.readStrict s <;> rfl
  cases a <;> cases b
  case uuid.text u s => exact huuid u s
  case text.uuid s u => exact hswap (huuid u s)
  case timestamp.text t s => exact htimestamp t s
  case text.timestamp s t => exact hswap (htimestamp t s)
  all_goals rfl

/-- Comparing does not depend on the side. With `a` and `b` exchanged there is the same failure,
with the types exchanged, or there is no order either, or the reverse order. Whether a comparison
fails, whether it finds an order, and what a text, an integer, an identifier or a moment is taken
for are settled by the two values without regard to their sides. -/
theorem compare_isTwoSided (a b : Value) :
    (∀ types, a.compare b = .error types ↔ b.compare a = .error types.swap) ∧
      (∀ r, a.compare b = .ok r ↔ b.compare a = .ok (r.map Ordering.swap)) ∧
      ((∃ types, a.compare b = .error types) ↔ a.type.meets b.type = false) ∧
      (a.compare b = .ok none ↔ a.type.meets b.type = true ∧ a.lacksOrder b = true) ∧
      (a.nextTo b).compare (b.nextTo a) = a.compare b := by
  have hinvolution (r : Option Ordering) : (r.map Ordering.swap).map Ordering.swap = r := by
    cases r with
    | none => rfl
    | some o => exact congrArg some Ordering.swap_swap
  refine ⟨fun types => ⟨compare_of_error, compare_of_error⟩, fun r => ⟨compare_of_ok, fun h => ?_⟩,
    exists_compare_eq_error_iff, compare_eq_none_iff, compare_nextTo a b⟩
  rw [compare_of_ok h, hinvolution]

end Value

end Quarry
