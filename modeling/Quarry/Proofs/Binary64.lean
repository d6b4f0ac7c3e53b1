import Mathlib.Order.Monotone.Basic
import Quarry.Binary64

/-!
# The order of bit patterns

A bit pattern is its sign and its magnitude, so its place in the order of all bit patterns tells it
from every other one (`Binary64.totalKey_inj`). Among patterns of one sign the magnitude decides,
and the absolute value grows with it (`Binary64.absOf_strictMono`).
-/

namespace Quarry.Binary64

/-! ## Sign and magnitude -/

theorem magnitude_lt (x : Binary64) : x.magnitude < 2 ^ 63 :=
  Nat.mod_lt _ (by decide)

/-- The bits of a number that is put together have the sign in front of the magnitude. -/
theorem toNat_ofMagnitude (negative : Bool) {m : Nat} (h : m < 2 ^ 63) :
    (ofMagnitude negative m).bits.toNat = (if negative then 2 ^ 63 else 0) + m := by
  have hlt : (if negative then 2 ^ 63 else 0) + m < 2 ^ 64 := by
    cases negative <;> simp <;> omega
  exact UInt64.toNat_ofNat_of_lt' hlt

theorem magnitude_ofMagnitude (negative : Bool) {m : Nat} (h : m < 2 ^ 63) :
    (ofMagnitude negative m).magnitude = m := by
  rw [magnitude, toNat_ofMagnitude negative h]
  cases negative <;> simp <;> omega

theorem isNegative_ofMagnitude (negative : Bool) {m : Nat} (h : m < 2 ^ 63) :
    (ofMagnitude negative m).isNegative = negative := by
  rw [isNegative, toNat_ofMagnitude negative h]
  cases negative <;> simp
  omega

theorem ofMagnitude_self (x : Binary64) : ofMagnitude x.isNegative x.magnitude = x := by
  have hbits : (ofMagnitude x.isNegative x.magnitude).bits.toNat = x.bits.toNat := by
    have hlt := x.bits.toNat_lt
    rw [toNat_ofMagnitude _ x.magnitude_lt, isNegative, magnitude]
    by_cases h : 2 ^ 63 ≤ x.bits.toNat
    · simp only [h, decide_true, if_true]
      omega
    · simp only [h, decide_false, Bool.false_eq_true, if_false]
      omega
  cases x
  exact congrArg Binary64.mk (UInt64.toNat_inj.mp hbits)

/-! ## The total order -/

/-- No two bit patterns have one place in the order of `totalKey`. -/
theorem totalKey_inj {x y : Binary64} (h : x.totalKey = y.totalKey) : x = y := by
  have hsame : x.isNegative = y.isNegative ∧ x.magnitude = y.magnitude := by
    rw [totalKey, totalKey] at h
    cases hx : x.isNegative <;> cases hy : y.isNegative <;> rw [hx, hy] at h <;>
      simp only [Bool.false_eq_true, if_true, if_false] at h
    · exact ⟨rfl, by omega⟩
    · omega
    · omega
    · exact ⟨rfl, by omega⟩
  rw [← ofMagnitude_self x, ← ofMagnitude_self y, hsame.1, hsame.2]

/-! ## Absolute values -/

/-- The absolute value of a magnitude `m` as a multiple of `2 ^ (-1074)`. -/
def absOf (m : Nat) : Nat :=
  if m / 2 ^ 52 = 0 then m % 2 ^ 52 else (2 ^ 52 + m % 2 ^ 52) * 2 ^ (m / 2 ^ 52 - 1)

theorem scaledMagnitude_eq (x : Binary64) : x.scaledMagnitude = absOf x.magnitude := rfl

/-- The absolute value of a magnitude with the exponent `k + 1` and a significand `s` with its
leading bit. The significand may be one too large; it then carries into the exponent. -/
theorem absOf_add {k s : Nat} (hlow : 2 ^ 52 ≤ s) (hhigh : s ≤ 2 ^ 53) :
    absOf (k * 2 ^ 52 + s) = s * 2 ^ k := by
  rcases Nat.lt_or_eq_of_le hhigh with h | h
  · have hfield : (k * 2 ^ 52 + s) / 2 ^ 52 = k + 1 := by omega
    have hfraction : 2 ^ 52 + (k * 2 ^ 52 + s) % 2 ^ 52 = s := by omega
    rw [absOf, hfield, if_neg (Nat.succ_ne_zero k), hfraction, Nat.add_sub_cancel]
  · have hfield : (k * 2 ^ 52 + s) / 2 ^ 52 = k + 2 := by omega
    have hfraction : 2 ^ 52 + (k * 2 ^ 52 + s) % 2 ^ 52 = 2 ^ 52 := by omega
    have hpow : 2 ^ (k + 2 - 1) = 2 * 2 ^ k := by rw [Nat.add_succ_sub_one, Nat.pow_succ']
    rw [absOf, hfield, if_neg (Nat.succ_ne_zero (k + 1)), hfraction, h, hpow, ← Nat.mul_assoc]

/-- The next magnitude has a larger absolute value, be it in one exponent or across two. -/
theorem absOf_lt_succ (m : Nat) : absOf m < absOf (m + 1) := by
  by_cases hsub : m + 1 < 2 ^ 52
  · rw [absOf, absOf, if_pos (by omega), if_pos (by omega)]
    omega
  · by_cases hlast : m < 2 ^ 52
    · have h : absOf (m + 1) = (m + 1) * 2 ^ 0 := by
        rw [← absOf_add (by omega) (by omega)]
        simp
      rw [h, absOf, if_pos (by omega)]
      omega
    · obtain ⟨k, s, hlow, hhigh, rfl⟩ : ∃ k s, 2 ^ 52 ≤ s ∧ s < 2 ^ 53 ∧ m = k * 2 ^ 52 + s :=
        ⟨m / 2 ^ 52 - 1, 2 ^ 52 + m % 2 ^ 52, by omega, by omega, by omega⟩
      rw [Nat.add_assoc, absOf_add hlow (by omega), absOf_add (by omega) (by omega)]
      exact Nat.mul_lt_mul_of_pos_right (Nat.lt_succ_self s) (Nat.two_pow_pos k)

/-- The absolute value grows with the magnitude. -/
theorem absOf_strictMono : StrictMono absOf :=
  strictMono_nat_of_lt_succ absOf_lt_succ

/-- From the exponent `k + 1` on, all absolute values are multiples of `2 ^ k`. -/
theorem exists_absOf_eq_mul {k m : Nat} (h : (k + 1) * 2 ^ 52 ≤ m) : ∃ j, absOf m = j * 2 ^ k := by
  have hfield : k + 1 ≤ m / 2 ^ 52 := (Nat.le_div_iff_mul_le (by decide)).mpr h
  refine ⟨(2 ^ 52 + m % 2 ^ 52) * 2 ^ (m / 2 ^ 52 - 1 - k), ?_⟩
  rw [absOf, if_neg (by omega), Nat.mul_assoc, ← Nat.pow_add, Nat.sub_add_cancel (by omega)]

end Quarry.Binary64
