import Quarry.Filter
import Quarry.Proofs.Ordering
import Quarry.Proofs.Value.Numbers

/-!
# Sorting and comparing

Values are sorted in one order and compared by criteria in another one. Within a rank the order of
sorting refines the other one: what is strictly in order for a criterion is sorted so
(`Value.sortCompare_of_compare`). So in a list of records that is sorted by a field, those below an
operand stand before those above it (`sorting_refines_comparing`).

A criterion finds no order for a NaN, but sorting has a place for it, which depends on its sign: the
NaNs without a sign stand behind all other numbers, and those with a sign in front of them
(`nans_last_iff`).
-/

namespace Quarry

/-! ## Bit patterns -/

namespace Binary64

variable {x y : Binary64}

/-- The order of bit patterns refines the order of the numbers that they stand for. -/
theorem totalKey_lt_of_scaled_lt (h : x.scaled < y.scaled) : x.totalKey < y.totalKey := by
  have hmono (m n : Nat) : absOf m < absOf n ↔ m < n := absOf_strictMono.lt_iff_lt
  rw [scaled, scaled, scaledMagnitude_eq, scaledMagnitude_eq] at h
  rw [totalKey, totalKey]
  cases hx : x.isNegative <;> cases hy : y.isNegative <;> rw [hx, hy] at h <;>
    simp only [Bool.false_eq_true, if_true, if_false] at h ⊢
  · have := (hmono x.magnitude y.magnitude).mp (by omega)
    omega
  · omega
  · omega
  · have := (hmono y.magnitude x.magnitude).mp (by omega)
    omega

/-- Numbers that are strictly in order are so by `totalCompare`. -/
theorem totalCompare_of_partialCompare {o : Ordering} (ho : o ≠ .eq)
    (h : x.partialCompare y = some o) : x.totalCompare y = o := by
  unfold partialCompare at h
  split at h
  · cases h
  have hscaled : compare x.scaled y.scaled = o := Option.some.inj h
  cases o with
  | lt => exact compare_lt_iff_lt.mpr (totalKey_lt_of_scaled_lt (compare_lt_iff_lt.mp hscaled))
  | eq => exact absurd rfl ho
  | gt => exact compare_gt_iff_gt.mpr (totalKey_lt_of_scaled_lt (compare_gt_iff_gt.mp hscaled))

/-- The NaNs lie beyond the infinities on the side of their sign. -/
theorem totalCompare_nan (hx : x.isNaN = true) (hy : y.isNaN = false) :
    x.totalCompare y = if x.isNegative then .lt else .gt := by
  have hxmagnitude : infinityMagnitude < x.magnitude := of_decide_eq_true hx
  have hymagnitude : ¬infinityMagnitude < y.magnitude := of_decide_eq_false hy
  rw [totalCompare, totalKey, totalKey]
  cases x.isNegative with
  | true =>
    rw [if_pos rfl, if_pos rfl, compare_lt_iff_lt]
    split <;> omega
  | false =>
    rw [if_neg Bool.false_ne_true, if_neg Bool.false_ne_true, compare_gt_iff_gt]
    split <;> omega

end Binary64

/-! ## Values -/

namespace Value

variable {a b : Value}

/-- Values of one rank that are strictly in order are sorted so. -/
theorem sortCompare_of_compare (hrank : a.rank = b.rank) {o : Ordering} (ho : o ≠ .eq)
    (h : a.compare b = .ok (some o)) : a.sortCompare b = o := by
  have hthen (tie : Ordering) : o.then tie = o := by
    cases o with
    | eq => exact absurd rfl ho
    | lt | gt => rfl
  have hnumber {x y : Binary64} (hxy : x.partialCompare y = some o) (tie : Ordering) :
      (x.totalCompare y).then tie = o := by
    rw [Binary64.totalCompare_of_partialCompare ho hxy, hthen]
  cases a <;> cases b <;> cases hrank
  case null.null => exact absurd (Option.some.inj (Except.ok.inj h)).symm ho
  case bool.bool => exact Option.some.inj (Except.ok.inj h)
  case int.int => exact Option.some.inj (Except.ok.inj h)
  case int.float => exact hnumber (Except.ok.inj h) .lt
  case float.int => exact hnumber (Except.ok.inj h) .gt
  case float.float => exact Binary64.totalCompare_of_partialCompare ho (Except.ok.inj h)
  case uuid.uuid => exact Option.some.inj (Except.ok.inj h)
  case timestamp.timestamp => exact Option.some.inj (Except.ok.inj h)
  case text.text => exact Option.some.inj (Except.ok.inj h)
  case list.list => cases h

theorem exists_compare_of_rank_eq (hrank : a.rank = b.rank) (hlist : b.rank ≠ 6) :
    ∃ o, a.compare b = .ok o := by
  cases a <;> cases b <;> first | exact ⟨_, rfl⟩ | exact absurd rfl hlist | cases hrank

end Value

/-! ## Places in a sorted list -/

section Places

variable {α : Type} {p q : α → Prop} {l : List α}

/-- The elements with the property `p` stand before those with `q`. -/
def AllBefore (p q : α → Prop) (l : List α) : Prop :=
  ∀ i j (hi : i < l.length) (hj : j < l.length), p l[i] → q l[j] → i < j

/-- In a sorted list it is enough that no element with `q` may stand before one with `p`. -/
theorem AllBefore.of_pairwise {R : α → α → Prop} (hsorted : l.Pairwise R) (hrefl : ∀ a ∈ l, R a a)
    (h : ∀ a ∈ l, ∀ b ∈ l, p a → q b → ¬R b a) : AllBefore p q l := by
  intro i j hi hj hp hq
  have hnot : ¬R l[j] l[i] := h _ (List.getElem_mem hi) _ (List.getElem_mem hj) hp hq
  rcases Nat.lt_trichotomy i j with hlt | heq | hgt
  · exact hlt
  · subst heq
    exact absurd (hrefl _ (List.getElem_mem hi)) hnot
  · exact absurd (List.pairwise_iff_getElem.mp hsorted j i hj hi hgt) hnot

theorem AllBefore.not_swap (h : AllBefore p q l) (hp : ∃ a ∈ l, p a) (hq : ∃ b ∈ l, q b) :
    ¬AllBefore q p l := by
  intro hswap
  obtain ⟨a, ha, hpa⟩ := hp
  obtain ⟨b, hb, hqb⟩ := hq
  obtain ⟨i, hi, rfl⟩ := List.getElem_of_mem ha
  obtain ⟨j, hj, rfl⟩ := List.getElem_of_mem hb
  exact Nat.lt_asymm (h i j hi hj hpa hqb) (hswap j i hj hi hqb hpa)

end Places

/-! ## Records below and above an operand -/

/-- The operator that asks for an order. -/
def Operator.ofOrdering : Ordering → Operator
  | .lt => .lt
  | .eq => .eq
  | .gt => .gt

theorem Operator.holdsOf_ofOrdering (o : Ordering) (r : Option Ordering) :
    (ofOrdering o).holdsOf r = (r == some o) := by
  cases o <;> rfl

section Ranges

variable {α : Type} [Record α] {field : String} {v k : Value} {a : α} {o : Ordering}

/-- An operator that asks for the order `o` tells whether the comparison finds it. -/
theorem evaluate_ofOrdering (ho : o ≠ .eq) (hfield : Record.field? a field = some k)
    {r : Option Ordering} (h : k.compare v = .ok r) :
    Filter.evaluate (.leaf (.binary (.ofOrdering o) field v)) a = .ok (r == some o) := by
  have hcompare : Criterion.compareWith (.ofOrdering o) k v = .ok (r == some o) := by
    rw [Criterion.compareWith, h, ← Operator.holdsOf_ofOrdering]
  have htest : (Criterion.binary (.ofOrdering o) field v).testValue k = .ok (r == some o) := by
    cases o with
    | eq => exact absurd rfl ho
    | lt | gt => exact hcompare
  have hevaluate := Criterion.evaluate_of_field? (.binary (.ofOrdering o) field v) hfield
  rw [htest] at hevaluate
  exact hevaluate

/-- A record that is strictly below or above an operand `v` is sorted so. -/
theorem sortCompare_of_evaluate (ho : o ≠ .eq) (hfield : Record.field? a field = some k)
    (hrank : k.rank = v.rank) (hlist : v.rank ≠ 6)
    (h : Filter.evaluate (.leaf (.binary (.ofOrdering o) field v)) a = .ok true) :
    k.sortCompare v = o := by
  obtain ⟨r, hr⟩ := Value.exists_compare_of_rank_eq hrank hlist
  rw [evaluate_ofOrdering ho hfield hr, Except.ok.injEq, beq_iff_eq] at h
  rw [h] at hr
  exact Value.sortCompare_of_compare hrank ho hr

theorem OrderBy.key_byField (h : Record.field? a field = some k) (d : SortDirection) :
    (byField field d).key a = .ok k := by
  simp only [byField, h]

/-- Records are in order by a field just if the values of the field are. -/
theorem OrderBy.inOrder_byField_iff {b : α} {l : Value} (ha : Record.field? a field = some k)
    (hb : Record.field? b field = some l) :
    (OrderBy.byField field .ascending).InOrder a b ↔ (k.sortCompare l).isLE = true := by
  constructor
  · rintro ⟨k', l', hk, hl, hle⟩
    rw [key_byField ha] at hk
    rw [key_byField hb] at hl
    cases hk
    cases hl
    exact hle
  · intro hle
    exact ⟨k, l, key_byField ha .ascending, key_byField hb .ascending, hle⟩

/-- Records are sorted by a `field` that all of them have. -/
theorem OrderBy.exists_sort_byField {records : List α} (d : SortDirection)
    (h : ∀ a ∈ records, ∃ k, Record.field? a field = some k) :
    ∃ sorted, (byField field d).sort records = .ok sorted ∧
      (byField field d).IsStableSort records sorted := by
  refine exists_sort (firstError?_eq_none_iff.mpr ?_)
  intro a ha
  obtain ⟨k, hk⟩ := h a ha
  exact ⟨k, key_byField hk d⟩

/-- The key of a record below an operand `v` precedes that of a record above it. -/
theorem not_inOrder_of_evaluate {b : α} {l : Value} (hlist : v.rank ≠ 6)
    (hk : Record.field? a field = some k) (hkrank : k.rank = v.rank)
    (hl : Record.field? b field = some l) (hlrank : l.rank = v.rank)
    (hbelow : Filter.evaluate (.leaf (.binary .lt field v)) a = .ok true)
    (habove : Filter.evaluate (.leaf (.binary .gt field v)) b = .ok true) :
    ¬(OrderBy.byField field .ascending).InOrder b a := by
  have hkv : k.sortCompare v = .lt :=
    sortCompare_of_evaluate (o := .lt) (by decide) hk hkrank hlist hbelow
  have hlv : l.sortCompare v = .gt :=
    sortCompare_of_evaluate (o := .gt) (by decide) hl hlrank hlist habove
  have hlk : l.sortCompare k = .gt :=
    Std.OrientedCmp.gt_of_lt (Std.TransCmp.lt_trans hkv (Std.OrientedCmp.lt_of_gt hlv))
  rw [OrderBy.inOrder_byField_iff hl hk, hlk]
  exact Bool.false_ne_true

end Ranges

/-- Values of one rank that are strictly in order for a criterion are sorted so. If all records have
a value of one rank in a field, they are sorted by it, and those below an operand `v` of this rank
come before those above it. Lists are not compared at all. -/
theorem sorting_refines_comparing :
    (∀ a b : Value, a.rank = b.rank →
      (a.compare b = .ok (some .lt) → a.sortCompare b = .lt) ∧
      (a.compare b = .ok (some .gt) → a.sortCompare b = .gt)) ∧
    ∀ {α : Type} [Record α] {field : String} {v : Value} {records : List α}, v.rank ≠ 6 →
      (∀ a ∈ records, ∃ k, Record.field? a field = some k ∧ k.rank = v.rank) →
      let below : Filter := .leaf (.binary .lt field v)
      let above : Filter := .leaf (.binary .gt field v)
      (∀ a ∈ records, ∃ isBelow isAbove,
        below.evaluate a = .ok isBelow ∧ above.evaluate a = .ok isAbove) ∧
      ∃ sorted, (OrderBy.byField field .ascending).sort records = .ok sorted ∧
        sorted.Perm records ∧
        AllBefore (fun a => below.evaluate a = .ok true) (fun a => above.evaluate a = .ok true)
          sorted := by
  refine ⟨fun a b hrank => ⟨Value.sortCompare_of_compare hrank (by decide),
    Value.sortCompare_of_compare hrank (by decide)⟩, ?_⟩
  intro α _ field v records hlist hfields below above
  obtain ⟨sorted, hsort, hstable⟩ := OrderBy.exists_sort_byField .ascending
    fun a ha => (hfields a ha).imp fun k hk => hk.1
  have hfields' : ∀ a ∈ sorted, ∃ k, Record.field? a field = some k ∧ k.rank = v.rank :=
    fun a ha => hfields a (hstable.perm.mem_iff.mp ha)
  refine ⟨?_, sorted, hsort, hstable.perm, AllBefore.of_pairwise hstable.ordered ?_ ?_⟩
  · intro a ha
    obtain ⟨k, hk, hrank⟩ := hfields a ha
    obtain ⟨r, hr⟩ := Value.exists_compare_of_rank_eq hrank hlist
    exact ⟨_, _, evaluate_ofOrdering (o := .lt) (by decide) hk hr,
      evaluate_ofOrdering (o := .gt) (by decide) hk hr⟩
  · intro a ha
    obtain ⟨k, hk, -⟩ := hfields' a ha
    exact (OrderBy.inOrder_byField_iff hk hk).mpr Std.ReflCmp.isLE_rfl
  · intro a ha b hb hbelow habove
    obtain ⟨k, hk, hkrank⟩ := hfields' a ha
    obtain ⟨l, hl, hlrank⟩ := hfields' b hb
    exact not_inOrder_of_evaluate hlist hk hkrank hl hlrank hbelow habove

/-- Integers and floating-point numbers in one field, among them two that only sorting tells apart
and a NaN. -/
theorem sorted_scores_around_operand :
    let v : Value := .float ⟨0x4340000000000000⟩
    let records : List (List (String × Value)) :=
      [.float .nan, .int 9007199254740993, v, .float .infinity, .int 7].map
        fun score => [("score", score)]
    let below : Filter := .leaf (.binary .lt "score" v)
    let above : Filter := .leaf (.binary .gt "score" v)
    (Value.compare (.int 7) v = .ok (some .lt) ∧ Value.sortCompare (.int 7) v = .lt) ∧
      (below.evaluate [("score", Value.int 7)] = .ok true ∧
        above.evaluate [("score", Value.float .infinity)] = .ok true) ∧
      ∃ sorted, (OrderBy.byField "score" .ascending).sort records = .ok sorted ∧
        sorted.Perm records ∧
        AllBefore (fun a => below.evaluate a = .ok true) (fun a => above.evaluate a = .ok true)
          sorted := by
  intro v records below above
  have hcompare : Value.compare (.int 7) v = .ok (some .lt) :=
    congrArg Except.ok (by decide +kernel)
  have hinfinity : Value.compare (.float .infinity) v = .ok (some .gt) :=
    congrArg Except.ok (by decide +kernel)
  refine ⟨⟨hcompare, (sorting_refines_comparing.1 (.int 7) v rfl).1 hcompare⟩, ⟨?_, ?_⟩, ?_⟩
  · exact evaluate_ofOrdering (o := .lt) (by decide) rfl hcompare
  · exact evaluate_ofOrdering (o := .gt) (by decide) rfl hinfinity
  · refine (sorting_refines_comparing.2 (by decide) ?_).2
    simp [records, v, Record.field?, Value.rank]

/-! ## The places of the NaNs -/

namespace Value

/-- An integer or a floating-point number other than a NaN. -/
def isNumber : Value → Bool
  | .int _ => true
  | .float x => !x.isNaN
  | _ => false

/-- A NaN with a sign or one without. -/
def isNaNOfSign (negative : Bool) : Value → Bool
  | .float x => x.isNaN && x.isNegative == negative
  | _ => false

variable {a b : Value}

theorem sortCompare_nan {negative : Bool} (ha : a.isNaNOfSign negative = true)
    (hb : b.isNumber = true) : a.sortCompare b = if negative then .lt else .gt := by
  cases a with
  | float x =>
    obtain ⟨hx, hsign⟩ := Bool.and_eq_true_iff.mp ha
    have hsign := eq_of_beq hsign
    cases b with
    | int n =>
      have hn := (Binary64.isNearestEven_ofInt (natAbs_toInt_lt n)).finite
      show (x.totalCompare (Binary64.ofInt n.toInt)).then .gt = _
      rw [Binary64.totalCompare_nan hx (Binary64.isNaN_eq_false_of_isFinite hn), hsign]
      cases negative <;> rfl
    | float y =>
      show x.totalCompare y = _
      rw [Binary64.totalCompare_nan hx ((Bool.not_eq_true' _).mp hb), hsign]
    | _ => cases hb
  | _ => cases ha

theorem sortCompare_null (ha : a.isNull = true) (hb : b.isNull = false) :
    a.sortCompare b = .lt := by
  cases a with
  | null =>
    cases b with
    | null => cases hb
    | _ => rfl
  | _ => cases ha

theorem allBefore_mergeSort {p q : Value → Prop}
    (h : ∀ a b, p a → q b → a.sortCompare b = .lt) (values : List Value) :
    AllBefore p q (values.mergeSort fun a b => (a.sortCompare b).isLE) := by
  have hsorted : (values.mergeSort fun a b => (a.sortCompare b).isLE).Pairwise fun a b =>
      (a.sortCompare b).isLE = true := by
    refine List.pairwise_mergeSort ?_ (isLE_total sortCompare) values
    exact fun a b c => sortCompare_trans
  refine AllBefore.of_pairwise hsorted (fun a _ => Std.ReflCmp.isLE_rfl) ?_
  intro a _ b _ ha hb hle
  rw [Std.OrientedCmp.gt_of_lt (h a b ha hb)] at hle
  cases hle

end Value

section Sorted

open Value

/-- In a sorted list the nulls come first. A NaN without a sign comes after all numbers and one with
a sign before them. So all NaNs come last among the numbers if none has a sign, or if there is no
other number, and in no other case. -/
theorem nans_last_iff (values : List Value) :
    let sorted := values.mergeSort fun a b => (a.sortCompare b).isLE
    sorted.Perm values ∧
      AllBefore (fun a => a.isNull = true) (fun b => b.isNull = false) sorted ∧
      AllBefore (fun a => a.isNumber = true) (fun b => b.isNaNOfSign false = true) sorted ∧
      AllBefore (fun a => a.isNaNOfSign true = true) (fun b => b.isNumber = true) sorted ∧
      (AllBefore (fun a => a.isNumber = true) (fun b => ∃ s, b.isNaNOfSign s = true) sorted ↔
        ¬((∃ a ∈ values, a.isNumber = true) ∧ ∃ b ∈ values, b.isNaNOfSign true = true)) := by
  intro sorted
  have hperm : sorted.Perm values := List.mergeSort_perm values _
  have hmem {p : Value → Prop} : (∃ a ∈ sorted, p a) ↔ ∃ a ∈ values, p a :=
    exists_congr fun a => and_congr_left fun _ => hperm.mem_iff
  have hlast : AllBefore (fun a => a.isNumber = true) (fun b => b.isNaNOfSign false = true)
      sorted :=
    allBefore_mergeSort (fun a b ha hb => Std.OrientedCmp.lt_of_gt (sortCompare_nan hb ha)) values
  have hfirst : AllBefore (fun a => a.isNaNOfSign true = true) (fun b => b.isNumber = true)
      sorted :=
    allBefore_mergeSort (fun a b ha hb => sortCompare_nan ha hb) values
  refine ⟨hperm, allBefore_mergeSort (fun a b => sortCompare_null) values, hlast, hfirst, ?_, ?_⟩
  · intro hall hboth
    rw [← hmem, ← hmem] at hboth
    refine hfirst.not_swap hboth.2 hboth.1 ?_
    intro i j hi hj hi' hj'
    exact hall i j hi hj hi' ⟨true, hj'⟩
  · rintro hnot i j hi hj hnumber ⟨s, hnan⟩
    cases s with
    | false => exact hlast i j hi hj hnumber hnan
    | true =>
      rw [← hmem, ← hmem] at hnot
      exact absurd ⟨⟨_, List.getElem_mem hi, hnumber⟩, _, List.getElem_mem hj, hnan⟩ hnot

/-- A NaN with a sign is sorted before a number, so that not all NaNs come last. -/
theorem exists_nan_sorted_first :
    let nan : Binary64 := Binary64.nan.neg
    let sorted : List Value := [.float nan, .int 1]
    (nan.isNaN = true ∧ Value.sortCompare (.float nan) (.int 1) = .lt) ∧
      sorted.mergeSort (fun a b => (a.sortCompare b).isLE) = sorted ∧
      ¬AllBefore (fun a => a.isNumber = true) (fun b => ∃ s, b.isNaNOfSign s = true) sorted := by
  intro nan sorted
  have hnan : (Value.float nan).isNaNOfSign true = true := by decide
  have hlt : Value.sortCompare (.float nan) (.int 1) = .lt := sortCompare_nan hnan rfl
  refine ⟨⟨by decide, hlt⟩, ?_, ?_⟩
  · refine List.mergeSort_of_pairwise ?_
    simp [sorted, hlt]
  · intro h
    exact absurd (h 1 0 (by decide) (by decide) rfl ⟨true, hnan⟩) (by decide)

end Sorted

end Quarry
