import Quarry.Proofs.Binary64.Rounding
import Quarry.Proofs.Criterion
import Quarry.Proofs.Value.Sorting

/-!
# Integers next to floating-point numbers

A criterion compares an integer with a floating-point number by rounding the integer first. The
number that comes of it is on the same side of every other number as the integer is, since it is a
nearest one. So rounding only makes a difference next to that number itself, and there it does if the
integer is not that number (`Binary64.Hides`). Integers up to `2 ^ 53` are never rounded.
-/

namespace Quarry

namespace Binary64

/-! ## The order of an integer and a number -/

/-- The order of the integer `n` and a number `x` that is not a NaN by their values. Every finite
value is a multiple of `2 ^ (-1074)`. -/
def exactOrder (n : Int) (x : Binary64) : Ordering :=
  if x.isFinite then compare (n * unitsOfOne) x.scaled
  else if x.isNegative then .gt else .lt

/-- The number `x` has the value to which `n` is rounded, and it is not `n`. -/
def Hides (x : Binary64) (n : Int) : Prop :=
  (ofInt n).scaled = x.scaled ∧ exactOrder n x ≠ .eq

theorem isNaN_eq_false_of_isFinite {x : Binary64} (h : x.isFinite = true) : x.isNaN = false := by
  rw [isFinite, decide_eq_true_iff] at h
  exact decide_eq_false (by omega)

theorem magnitude_of_infinite {x : Binary64} (hx : x.isNaN = false) (hinf : x.isFinite = false) :
    x.magnitude = infinityMagnitude := by
  rw [isNaN, decide_eq_false_iff_not] at hx
  rw [isFinite, decide_eq_false_iff_not] at hinf
  omega

/-- Every finite number `y` lies between the two infinities. -/
theorem compare_scaled_infinite {x y : Binary64} (hy : y.isFinite = true) (hx : x.isNaN = false)
    (hinf : x.isFinite = false) :
    compare y.scaled x.scaled = if x.isNegative then .gt else .lt := by
  have hmagnitude : y.magnitude < x.magnitude := by
    rw [magnitude_of_infinite hx hinf]
    exact of_decide_eq_true hy
  have habs := absOf_strictMono hmagnitude
  have hyscaled := y.scaled_eq
  have hxscaled : x.scaled =
      if x.isNegative then -(absOf x.magnitude : Int) else absOf x.magnitude := rfl
  rw [hxscaled]
  cases x.isNegative with
  | true =>
    rw [if_pos rfl, if_pos rfl, compare_gt_iff_gt]
    omega
  | false =>
    rw [if_neg Bool.false_ne_true, if_neg Bool.false_ne_true, compare_lt_iff_lt]
    omega

theorem natAbs_scaled (x : Binary64) : x.scaled.natAbs = absOf x.magnitude := by
  have := x.scaled_eq
  omega

theorem isFinite_of_scaled_eq {x y : Binary64} (hy : y.isFinite = true)
    (h : y.scaled = x.scaled) : x.isFinite = true := by
  have hmagnitude : y.magnitude = x.magnitude := by
    rw [← absOf_strictMono.injective.eq_iff, ← natAbs_scaled, ← natAbs_scaled, h]
  rw [isFinite, ← hmagnitude]
  exact hy

/-- A value `a` that is nearer to `t` than `b` is stands on the same side of `b` as `t`. -/
theorem compare_eq_of_nearer {a b t : Int} (h : (a - t).natAbs ≤ (b - t).natAbs) (hne : a ≠ b) :
    compare a b = compare t b := by
  rcases Int.lt_trichotomy t b with hlt | heq | hgt
  · rw [compare_lt_iff_lt.mpr hlt, compare_lt_iff_lt]
    omega
  · omega
  · rw [compare_gt_iff_gt.mpr hgt, compare_gt_iff_gt]
    omega

section Rounded

variable {n : Int} {x : Binary64}

/-- A rounded integer with another value than `x` is in the order of the integer itself. -/
theorem partialCompare_ofInt_of_ne (hn : n.natAbs < 2 ^ 64) (hx : x.isNaN = false)
    (hne : (ofInt n).scaled ≠ x.scaled) :
    (ofInt n).partialCompare x = some (exactOrder n x) := by
  have hnearest := isNearestEven_ofInt hn
  rw [partialCompare, isNaN_eq_false_of_isFinite hnearest.finite, hx, exactOrder]
  cases hfinite : x.isFinite with
  | true => exact congrArg some (compare_eq_of_nearer (hnearest.nearest x hfinite) hne)
  | false => exact congrArg some (compare_scaled_infinite hnearest.finite hx hfinite)

theorem partialCompare_ofInt_of_eq (hn : n.natAbs < 2 ^ 64) (hx : x.isNaN = false)
    (heq : (ofInt n).scaled = x.scaled) : (ofInt n).partialCompare x = some .eq := by
  rw [partialCompare, isNaN_eq_false_of_isFinite (isNearestEven_ofInt hn).finite, hx, heq]
  exact congrArg some (compare_eq_iff_eq.mpr rfl)

/-- A rounded integer is in the order of `n` itself just if `x` hides nothing. -/
theorem partialCompare_ofInt_iff (hn : n.natAbs < 2 ^ 64) (hx : x.isNaN = false) :
    (ofInt n).partialCompare x = some (exactOrder n x) ↔ ¬x.Hides n := by
  by_cases heq : (ofInt n).scaled = x.scaled
  · rw [partialCompare_ofInt_of_eq hn hx heq, Option.some_inj, Hides, eq_comm, ne_eq]
    exact ⟨fun h hhides => hhides.2 h, fun h => by_contra fun hne => h ⟨heq, hne⟩⟩
  · exact iff_of_true (partialCompare_ofInt_of_ne hn hx heq) fun hhides => heq hhides.1

theorem partialCompare_ofInt_of_not_hides (hn : n.natAbs < 2 ^ 64) (h : ¬x.Hides n) :
    (ofInt n).partialCompare x = if x.isNaN then none else some (exactOrder n x) := by
  cases hx : x.isNaN with
  | true => rw [partialCompare, hx, Bool.or_true, if_pos rfl, if_pos rfl]
  | false => exact (partialCompare_ofInt_iff hn hx).mpr h

theorem partialCompare_swap (x y : Binary64) :
    x.partialCompare y = (y.partialCompare x).map Ordering.swap := by
  rw [partialCompare, partialCompare, Bool.or_comm]
  split
  · rfl
  · exact congrArg some Std.OrientedCmp.eq_swap

end Rounded

/-! ## Integers that are not rounded -/

/-- Up to `2 ^ 53` a natural number is not rounded. -/
theorem absOf_nearestMagnitude_of_le {k : Nat} (hk : k ≤ 2 ^ 53) :
    absOf (nearestMagnitude k 1) = k * unitsOfOne := by
  rcases Nat.eq_zero_or_pos k with rfl | hpos
  · rw [Nat.zero_mul]
    rfl
  have hne : k ≠ 0 := Nat.pos_iff_ne_zero.mp hpos
  obtain ⟨j, hj⟩ : ∃ j, j * 2 ^ (k.log2 + 1022) = k * unitsOfOne := by
    rcases Nat.lt_or_eq_of_le hk with hlt | rfl
    · have hlog : k.log2 < 53 := (Nat.log2_lt hne).mpr hlt
      have hsum : 52 - k.log2 + (k.log2 + 1022) = 0 + 1074 := by omega
      refine ⟨k * 2 ^ (52 - k.log2), ?_⟩
      rw [Nat.mul_assoc, two_pow_mul_two_pow hsum, Nat.pow_zero, Nat.one_mul]
    · have hlog : Nat.log2 (2 ^ 53) = 53 := Nat.log2_two_pow
      refine ⟨2 ^ 52, ?_⟩
      rw [hlog, two_pow_mul_two_pow (by omega : 52 + (53 + 1022) = 53 + 1074)]
  have hrounded := (isRounded_roundedSignificand k j).1
  rw [hj, Int.sub_self, Int.natAbs_zero] at hrounded
  rw [absOf_nearestMagnitude hne (by omega)]
  omega

theorem scaled_ofInt_of_le {n : Int} (hn : n.natAbs ≤ 2 ^ 53) :
    (ofInt n).scaled = n * unitsOfOne := by
  obtain ⟨k, rfl | rfl⟩ := n.eq_nat_or_neg
  · rw [scaled_ofInt_natCast (by omega), absOf_nearestMagnitude_of_le (by omega), Int.natCast_mul]
  · rw [scaled_ofInt_neg (by omega), absOf_nearestMagnitude_of_le (by omega), Int.natCast_mul,
      Int.neg_mul]

theorem Hides.isFinite {n : Int} {x : Binary64} (h : x.Hides n) (hn : n.natAbs < 2 ^ 64) :
    x.isFinite = true :=
  isFinite_of_scaled_eq (isNearestEven_ofInt hn).finite h.1

/-- Only integers beyond `2 ^ 53` are hidden, since the others are not rounded. -/
theorem Hides.lt {n : Int} {x : Binary64} (h : x.Hides n) (hn : n.natAbs < 2 ^ 64) :
    2 ^ 53 < n.natAbs := by
  by_contra hle
  obtain ⟨heq, hne⟩ := h
  rw [exactOrder, if_pos (Hides.isFinite ⟨heq, hne⟩ hn)] at hne
  rw [scaled_ofInt_of_le (Nat.le_of_not_lt hle)] at heq
  exact hne (compare_eq_iff_eq.mpr heq)

end Binary64

/-! ## Criteria -/

section Criteria

variable {α : Type} [Record α] {record : α} {field : String} {n : Int64}

open Binary64

/-- A comparison of an integer field asks for the order of the rounded integer. -/
theorem evaluate_comparison {op : Operator} (hfield : Record.field? record field = some (.int n))
    (hop : op ∈ [.eq, .ne, .lt, .le, .gt, .ge]) (x : Binary64) :
    (Criterion.binary op field (.float x)).evaluate record =
      .ok (op.holdsOf ((ofInt n.toInt).partialCompare x)) := by
  rw [Criterion.evaluate_of_field? (.binary op field (.float x)) hfield]
  cases op with
  | eq | ne | lt | le | gt | ge => rfl
  | _ => simp at hop

/-- An integer `n` is among numbers `xs` none of which hides a difference if it is one of them. -/
theorem evaluate_among (hfield : Record.field? record field = some (.int n)) {xs : List Binary64}
    (h : ∀ x ∈ xs, ¬x.Hides n.toInt) :
    (Criterion.among field (xs.map .float)).evaluate record =
      .ok (xs.any fun x => !x.isNaN && exactOrder n.toInt x == .eq) := by
  have hmatch (x : Binary64) (hx : ¬x.Hides n.toInt) :
      Criterion.compareWith .eq (.int n) (.float x) =
        .ok (!x.isNaN && exactOrder n.toInt x == .eq) := by
    show Except.ok (Operator.holdsOf .eq ((ofInt n.toInt).partialCompare x)) = _
    rw [partialCompare_ofInt_of_not_hides (Value.natAbs_toInt_lt n) hx]
    cases x.isNaN <;> rfl
  have hany : Criterion.equalsAny (.int n) (xs.map .float) =
      .ok (xs.any fun x => !x.isNaN && exactOrder n.toInt x == .eq) := by
    induction xs with
    | nil => rfl
    | cons x xs ih =>
      rw [List.forall_mem_cons] at h
      rw [List.map_cons, Criterion.equalsAny, hmatch x h.1, ih h.2, List.any_cons]
      cases !x.isNaN && exactOrder n.toInt x == .eq <;> rfl
  rw [Criterion.evaluate_of_field? (.among field (xs.map .float)) hfield]
  exact congrArg (Except.mapError _) hany

/-- The six comparisons of an integer field go by value just if the operand hides nothing. -/
theorem evaluate_comparisons_iff (hfield : Record.field? record field = some (.int n))
    {x : Binary64} (hx : x.isNaN = false) :
    (∀ op ∈ [.eq, .ne, .lt, .le, .gt, .ge],
      (Criterion.binary op field (.float x)).evaluate record =
        .ok (op.holdsOf (some (exactOrder n.toInt x)))) ↔ ¬x.Hides n.toInt := by
  have hn := Value.natAbs_toInt_lt n
  constructor
  · intro h hhides
    have heq := h .eq (by simp)
    rw [evaluate_comparison hfield (by simp), partialCompare_ofInt_of_eq hn hx hhides.1] at heq
    exact hhides.2 (eq_of_beq (Except.ok.inj heq).symm)
  · intro hhides op hop
    rw [evaluate_comparison hfield hop, (partialCompare_ofInt_iff hn hx).mpr hhides]

/-- An integer and a float are compared by value just if the float hides nothing. -/
theorem compare_int_float_iff {x : Binary64} (hx : x.isNaN = false) :
    Value.compare (.int n) (.float x) = .ok (some (exactOrder n.toInt x)) ↔ ¬x.Hides n.toInt := by
  rw [← partialCompare_ofInt_iff (Value.natAbs_toInt_lt n) hx]
  show Except.ok ((ofInt n.toInt).partialCompare x) = _ ↔ _
  rw [Except.ok.injEq]

theorem compare_float_int (x : Binary64) (o : Ordering) :
    Value.compare (.float x) (.int n) = .ok (some o.swap) ↔
      Value.compare (.int n) (.float x) = .ok (some o) := by
  show Except.ok (x.partialCompare (ofInt n.toInt)) = _ ↔
    Except.ok ((ofInt n.toInt).partialCompare x) = _
  rw [partialCompare_swap, Except.ok.injEq, Except.ok.injEq]
  rcases (ofInt n.toInt).partialCompare x with _ | _ | _ | _ <;> cases o <;> decide

variable (n)

/-- An integer `n` and a number `x` are compared by their values just if `x` is not the number to
which `n` is rounded, or is `n`. Next to the number that hides the difference the two count as
equal. Only integers beyond `2 ^ 53` can be hidden. The comparisons of an integer field with such an
operand, and its membership in a list of such operands, select by value under the same condition. -/
theorem compare_int_float_isExact_iff :
    (ofInt n.toInt).IsNearestEven n.toInt ∧
      (∀ x : Binary64, x.isNaN = false →
        (Value.compare (.int n) (.float x) = .ok (some (exactOrder n.toInt x)) ↔
          ¬x.Hides n.toInt) ∧
        (Value.compare (.float x) (.int n) = .ok (some (exactOrder n.toInt x).swap) ↔
          ¬x.Hides n.toInt)) ∧
      (∀ x : Binary64, x.Hides n.toInt → 2 ^ 53 < n.toInt.natAbs ∧
        Value.compare (.int n) (.float x) = .ok (some .eq) ∧
        Value.compare (.float x) (.int n) = .ok (some .eq)) ∧
      ∀ {α : Type} [Record α] (record : α) (field : String),
        Record.field? record field = some (.int n) →
          (∀ x : Binary64, x.isNaN = false →
            ((∀ op ∈ [.eq, .ne, .lt, .le, .gt, .ge],
              (Criterion.binary op field (.float x)).evaluate record =
                .ok (op.holdsOf (some (exactOrder n.toInt x)))) ↔ ¬x.Hides n.toInt)) ∧
          ∀ xs : List Binary64, (∀ x ∈ xs, ¬x.Hides n.toInt) →
            (Criterion.among field (xs.map .float)).evaluate record =
              .ok (xs.any fun x => !x.isNaN && exactOrder n.toInt x == .eq) := by
  have hn := Value.natAbs_toInt_lt n
  refine ⟨isNearestEven_ofInt hn, fun x hx => ?_, fun x hhides => ?_, ?_⟩
  · exact ⟨compare_int_float_iff hx, (compare_float_int x _).trans (compare_int_float_iff hx)⟩
  · have hx := isNaN_eq_false_of_isFinite (hhides.isFinite hn)
    have heq : Value.compare (.int n) (.float x) = .ok (some .eq) :=
      congrArg Except.ok (partialCompare_ofInt_of_eq hn hx hhides.1)
    exact ⟨hhides.lt hn, heq, (compare_float_int x .eq).mpr heq⟩
  · intro α _ record field hfield
    exact ⟨fun x hx => evaluate_comparisons_iff hfield hx, fun xs h => evaluate_among hfield h⟩

/-- The integer `2 ^ 53 + 1` counts as equal to the number `2 ^ 53`, in both orders of the two and in
a criterion, and it is larger. -/
theorem exists_compare_int_float_ne :
    let n : Int64 := 9007199254740993
    let x : Binary64 := ⟨0x4340000000000000⟩
    let record : List (String × Value) := [("age", .int n)]
    (x.isNaN = false ∧ x.scaled = 9007199254740992 * unitsOfOne ∧
        exactOrder n.toInt x = .gt) ∧
      Value.compare (.int n) (.float x) = .ok (some .eq) ∧
      Value.compare (.float x) (.int n) = .ok (some .eq) ∧
      (Criterion.binary .eq "age" (.float x)).evaluate record = .ok true := by
  intro n x record
  have heq : (ofInt n.toInt).partialCompare x = some .eq := by decide +kernel
  have hcompare : Value.compare (.int n) (.float x) = .ok (some .eq) := congrArg Except.ok heq
  refine ⟨⟨by decide, by decide +kernel, by decide +kernel⟩, hcompare,
    (compare_float_int x .eq).mpr hcompare, ?_⟩
  rw [evaluate_comparison (n := n) rfl (by simp), heq]
  rfl

end Criteria

end Quarry
