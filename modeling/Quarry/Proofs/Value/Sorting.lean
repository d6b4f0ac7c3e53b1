import Quarry.Proofs.Binary64.Rounding
import Quarry.Proofs.Timestamp
import Quarry.Value

/-!
# The order in which values are sorted

The order of all values goes by type first, so only values of one rank are compared by their
contents. Integers and floating-point numbers share a rank. Two integers are compared exactly, while
an integer meets a floating-point number through the nearest one; both agree because rounding keeps
the order (`Value.sortsBy_number`). The order of lists goes from item to item, and the laws of
the whole order are proved for values and for lists of them together, by recursion on the first.
-/

namespace Quarry.Value

/-! ## Ranks -/

theorem sortCompare_of_rank_ne {a b : Value} (h : a.rank ≠ b.rank) :
    sortCompare a b = Ord.compare a.rank b.rank := by
  cases a <;> cases b <;> first | rfl | exact absurd rfl h

theorem rank_le_of_isLE {a b : Value} (h : (sortCompare a b).isLE = true) : a.rank ≤ b.rank := by
  by_cases hrank : a.rank = b.rank
  · exact Nat.le_of_eq hrank
  · rw [sortCompare_of_rank_ne hrank] at h
    exact Nat.isLE_compare.mp h

theorem isLE_of_rank_lt {a b : Value} (h : a.rank < b.rank) : (sortCompare a b).isLE = true := by
  rw [sortCompare_of_rank_ne (Nat.ne_of_lt h)]
  exact Nat.isLE_compare.mpr (Nat.le_of_lt h)

/-! ## Numbers -/

/-- What decides between numbers: first the `place` of the floating-point number, then an integer
precedes a floating-point number, then the `exact` integer. -/
structure NumberKey where
  place : Int
  isFloat : Nat
  exact : Int

/-- The key of a value that is an `int` or a `float`. -/
def numberKey : Value → NumberKey
  | .int n => ⟨(Binary64.ofInt n.toInt).totalKey, 0, n.toInt⟩
  | .float x => ⟨x.totalKey, 1, 0⟩
  | _ => ⟨0, 0, 0⟩

/-- The parts of a key decide in their order: `place`, `isFloat`, `exact`. -/
def NumberKey.order : NumberKey → NumberKey → Ordering :=
  compareLex (compareOn place) (compareLex (compareOn isFloat) (compareOn exact))

instance : Std.TransCmp NumberKey.order :=
  inferInstanceAs (Std.TransCmp (compareLex _ _))

instance : Std.LawfulEqCmp NumberKey.order where
  eq_of_compare {k l} h := by
    obtain ⟨hplace, h⟩ := Ordering.then_eq_eq.mp h
    obtain ⟨hfloat, hexact⟩ := Ordering.then_eq_eq.mp h
    cases k
    cases l
    rw [NumberKey.mk.injEq]
    exact ⟨Std.LawfulEqOrd.eq_of_compare hplace, Std.LawfulEqOrd.eq_of_compare hfloat,
      Std.LawfulEqOrd.eq_of_compare hexact⟩

theorem natAbs_toInt_lt (n : Int64) : n.toInt.natAbs < 2 ^ 64 := by
  have hlow := Int64.le_toInt n
  have hhigh := Int64.toInt_lt n
  omega

/-- Two integers are in the order of their nearest numbers, as far as these are in one. -/
theorem compare_ofInt_then (m n : Int64) :
    (Ord.compare (Binary64.ofInt m.toInt).totalKey (Binary64.ofInt n.toInt).totalKey).then
      (Ord.compare m.toInt n.toInt) = Ord.compare m.toInt n.toInt := by
  have hmono := fun (a b : Int64) (h : a.toInt < b.toInt) =>
    Binary64.totalKey_ofInt_mono (Int.le_of_lt h) (natAbs_toInt_lt a) (natAbs_toInt_lt b)
  rcases Int.lt_trichotomy m.toInt n.toInt with h | h | h
  · rw [compare_lt_iff_lt.mpr h]
    rcases Int.lt_or_eq_of_le (hmono m n h) with hkey | hkey
    · rw [compare_lt_iff_lt.mpr hkey]
      rfl
    · rw [compare_eq_iff_eq.mpr hkey]
      rfl
  · rw [h, compare_eq_iff_eq.mpr rfl, compare_eq_iff_eq.mpr rfl]
    rfl
  · rw [compare_gt_iff_gt.mpr h]
    rcases Int.lt_or_eq_of_le (hmono n m h) with hkey | hkey
    · rw [compare_gt_iff_gt.mpr hkey]
      rfl
    · rw [compare_eq_iff_eq.mpr hkey.symm]
      rfl

/-! ## Keys -/

/-- The values of the `rank` are sorted by a `key` that tells them apart. -/
structure SortsBy (rank : Nat) {κ : Type} (order : κ → κ → Ordering) (key : Value → κ) : Prop where
  order_eq : ∀ {a b : Value}, a.rank = rank → b.rank = rank →
    sortCompare a b = order (key a) (key b)
  key_inj : ∀ {a b : Value}, a.rank = rank → b.rank = rank → key a = key b → a = b

/-- Numbers are sorted by their `numberKey`. -/
theorem sortsBy_number : SortsBy 2 NumberKey.order numberKey where
  order_eq {a b} ha hb := by
    cases a <;> cases ha <;> cases b <;> cases hb
    case int.refl.int.refl m n => exact (compare_ofInt_then m n).symm
    case int.refl.float.refl n y => rfl
    case float.refl.int.refl x n => rfl
    case float.refl.float.refl x y =>
      show x.totalCompare y = (x.totalCompare y).then .eq
      rw [Ordering.then_eq]
  key_inj {a b} ha hb h := by
    cases a <;> cases ha <;> cases b <;> cases hb <;>
      obtain ⟨hplace, hfloat, hexact⟩ := NumberKey.mk.inj h
    case int.refl.int.refl m n => rw [Int64.toInt_inj.mp hexact]
    case int.refl.float.refl n y => cases hfloat
    case float.refl.int.refl x n => cases hfloat
    case float.refl.float.refl x y => rw [Binary64.totalKey_inj hplace]

theorem sortsBy_null : SortsBy 0 Ord.compare rank where
  order_eq {a b} ha hb := by
    cases a <;> cases ha
    cases b <;> cases hb
    rfl
  key_inj {a b} ha hb _ := by
    cases a <;> cases ha
    cases b <;> cases hb
    rfl

/-- The values of the rank `n` that `inject` makes of keys are sorted by these keys, if they are in
the order of the keys. -/
theorem SortsBy.of_inject {n : Nat} {κ : Type} [Ord κ] {key : Value → κ} (inject : κ → Value)
    (hinject : ∀ {a : Value}, a.rank = n → inject (key a) = a)
    (horder : ∀ j k, sortCompare (inject j) (inject k) = Ord.compare j k) :
    SortsBy n Ord.compare key where
  order_eq ha hb := by rw [← horder, hinject ha, hinject hb]
  key_inj ha hb h := by rw [← hinject ha, h, hinject hb]

theorem sortsBy_bool : SortsBy 1 Ord.compare fun | .bool b => b | _ => false := by
  refine .of_inject .bool (fun {a} ha => ?_) fun _ _ => rfl
  cases a <;> first | rfl | cases ha

theorem sortsBy_uuid : SortsBy 3 Ord.compare fun | .uuid u => u | _ => ⟨0, by decide⟩ := by
  refine .of_inject .uuid (fun {a} ha => ?_) fun _ _ => rfl
  cases a <;> first | rfl | cases ha

theorem sortsBy_timestamp :
    SortsBy 4 Ord.compare fun | .timestamp t => t | _ => Timestamp.midnight 0 := by
  refine .of_inject .timestamp (fun {a} ha => ?_) fun _ _ => rfl
  cases a <;> first | rfl | cases ha

theorem sortsBy_text : SortsBy 5 Ord.compare fun | .text s => s | _ => "" := by
  refine .of_inject .text (fun {a} ha => ?_) fun _ _ => rfl
  cases a <;> first | rfl | cases ha

/-- Within a rank other than that of lists, values are sorted by a key. -/
theorem exists_sortsBy {a : Value} (h : a.rank ≠ 6) :
    ∃ (κ : Type) (order : κ → κ → Ordering) (key : Value → κ),
      Std.TransCmp order ∧ Std.LawfulEqCmp order ∧ SortsBy a.rank order key := by
  cases a
  case null => exact ⟨_, _, _, inferInstance, inferInstance, sortsBy_null⟩
  case bool => exact ⟨_, _, _, inferInstance, inferInstance, sortsBy_bool⟩
  case int => exact ⟨_, _, _, inferInstance, inferInstance, sortsBy_number⟩
  case float => exact ⟨_, _, _, inferInstance, inferInstance, sortsBy_number⟩
  case uuid => exact ⟨_, _, _, inferInstance, inferInstance, sortsBy_uuid⟩
  case timestamp => exact ⟨_, _, _, inferInstance, inferInstance, sortsBy_timestamp⟩
  case text => exact ⟨_, _, _, inferInstance, inferInstance, sortsBy_text⟩
  case list => exact absurd rfl h

/-! ## The laws -/

mutual

theorem sortCompare_swap (a b : Value) : sortCompare a b = (sortCompare b a).swap := by
  by_cases hrank : a.rank = b.rank
  · by_cases hlist : a.rank = 6
    · match a, b with
      | .list as, .list bs =>
        rw [sortCompare, sortCompare]
        exact sortCompareItems_swap as bs
    · obtain ⟨κ, order, key, _, _, h⟩ := exists_sortsBy hlist
      rw [h.order_eq rfl hrank.symm, h.order_eq hrank.symm rfl]
      exact Std.OrientedCmp.eq_swap
  · rw [sortCompare_of_rank_ne hrank, sortCompare_of_rank_ne (Ne.symm hrank)]
    exact Std.OrientedCmp.eq_swap

theorem sortCompareItems_swap (as bs : List Value) :
    sortCompareItems as bs = (sortCompareItems bs as).swap := by
  match as, bs with
  | [], [] => rfl
  | [], _ :: _ => rfl
  | _ :: _, [] => rfl
  | a :: as, b :: bs =>
    rw [sortCompareItems, sortCompareItems, Ordering.swap_then, ← sortCompare_swap a b,
      ← sortCompareItems_swap as bs]

end

instance : Std.OrientedCmp sortCompare where
  eq_swap := sortCompare_swap _ _

mutual

/-- Only a value itself is in the same place as a value. -/
theorem eq_of_sortCompare {a b : Value} (heq : sortCompare a b = .eq) : a = b := by
  by_cases hrank : a.rank = b.rank
  · by_cases hlist : a.rank = 6
    · match a, b with
      | .list as, .list bs =>
        rw [sortCompare] at heq
        rw [eq_of_sortCompareItems heq]
    · obtain ⟨κ, order, key, _, _, h⟩ := exists_sortsBy hlist
      rw [h.order_eq rfl hrank.symm] at heq
      exact h.key_inj rfl hrank.symm (Std.LawfulEqCmp.eq_of_compare heq)
  · rw [sortCompare_of_rank_ne hrank] at heq
    exact absurd (Nat.compare_eq_eq.mp heq) hrank

theorem eq_of_sortCompareItems {as bs : List Value} (heq : sortCompareItems as bs = .eq) :
    as = bs := by
  match as, bs with
  | [], [] => rfl
  | a :: as, b :: bs =>
    rw [sortCompareItems, Ordering.then_eq_eq] at heq
    rw [eq_of_sortCompare heq.1, eq_of_sortCompareItems heq.2]

end

instance : Std.LawfulEqCmp sortCompare where
  eq_of_compare := eq_of_sortCompare

mutual

/-- A value `a` that does not come after `b` does not come after those that follow `b`. -/
theorem sortCompare_trans {a b c : Value} (hab : (sortCompare a b).isLE = true)
    (hbc : (sortCompare b c).isLE = true) : (sortCompare a c).isLE = true := by
  have hab' := rank_le_of_isLE hab
  have hbc' := rank_le_of_isLE hbc
  by_cases hlt : a.rank < c.rank
  · exact isLE_of_rank_lt hlt
  · have hb : b.rank = a.rank := by omega
    have hc : c.rank = a.rank := by omega
    by_cases hlist : a.rank = 6
    · match a, b, c with
      | .list as, .list bs, .list cs =>
        rw [sortCompare] at hab hbc ⊢
        exact sortCompareItems_trans hab hbc
    · obtain ⟨κ, order, key, _, _, h⟩ := exists_sortsBy hlist
      rw [h.order_eq rfl hb] at hab
      rw [h.order_eq hb hc] at hbc
      rw [h.order_eq rfl hc]
      exact Std.TransCmp.isLE_trans hab hbc

/-- A first difference between `as` and `cs` is one to the list in the middle. -/
theorem sortCompareItems_trans {as bs cs : List Value} (hab : (sortCompareItems as bs).isLE = true)
    (hbc : (sortCompareItems bs cs).isLE = true) : (sortCompareItems as cs).isLE = true := by
  match as, bs, cs with
  | [], _, [] => rfl
  | [], _, _ :: _ => rfl
  | a :: as, b :: bs, c :: cs =>
    rw [sortCompareItems, Ordering.isLE_then_iff_or] at hab hbc ⊢
    rcases hab with hab | ⟨hab, habs⟩
    · rcases hbc with hbc | ⟨hbc, -⟩
      · left
        have hle := sortCompare_trans (Ordering.isLE_of_eq_lt hab) (Ordering.isLE_of_eq_lt hbc)
        rcases Ordering.isLE_iff_eq_lt_or_eq_eq.mp hle with hac | hac
        · exact hac
        · rw [eq_of_sortCompare hac] at hab
          exact absurd hbc (Std.OrientedCmp.not_lt_of_lt hab)
      · left
        rw [← eq_of_sortCompare hbc]
        exact hab
    · rcases hbc with hbc | ⟨hbc, hbcs⟩
      · left
        rw [eq_of_sortCompare hab]
        exact hbc
      · right
        rw [eq_of_sortCompare hab]
        exact ⟨hbc, sortCompareItems_trans habs hbcs⟩

end

instance : Std.TransCmp sortCompare where
  isLE_trans := sortCompare_trans

/-! ## The order of all values -/

/-- The order of `sortCompare` is linear, and each value has a place of its own in it. Two integers
are compared exactly. Only next to a floating-point number `y` does the number that is nearest to an
integer, ties to even, take its place, and the integer precedes it. -/
theorem sortCompare_isLinearOrder :
    (∀ a b, sortCompare a b = (sortCompare b a).swap) ∧
      (∀ a b c, (sortCompare a b).isLE = true → (sortCompare b c).isLE = true →
        (sortCompare a c).isLE = true) ∧
      (∀ a b, sortCompare a b = .eq ↔ a = b) ∧
      (∀ m n : Int64, sortCompare (.int m) (.int n) = Ord.compare m.toInt n.toInt) ∧
      ∀ (n : Int64) (y : Binary64), ∃ x : Binary64, x.IsNearestEven n.toInt ∧
        sortCompare (.int n) (.float y) = (x.totalCompare y).then .lt ∧
        sortCompare (.float y) (.int n) = (y.totalCompare x).then .gt := by
  refine ⟨sortCompare_swap, fun a b c => sortCompare_trans, fun a b => ?_, fun m n => rfl, ?_⟩
  · exact Std.LawfulEqCmp.compare_eq_iff_eq
  · intro n y
    exact ⟨Binary64.ofInt n.toInt, Binary64.isNearestEven_ofInt (natAbs_toInt_lt n), rfl, rfl⟩

end Quarry.Value
