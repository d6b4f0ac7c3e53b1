import Quarry.Binary64.Rounding
import Quarry.Proofs.Binary64

/-!
# Rounding integers

An integer of up to 64 bits is rounded to a nearest one among all finite numbers, and where two are
equally near to the one with the even fraction (`Binary64.isNearestEven_ofInt`). Rounding to a
nearest number keeps the order whatever the rule for ties is (`Binary64.totalKey_ofInt_mono`): two
integers whose nearest numbers were in the opposite order would lie on the wrong sides of the middle
between these numbers.

Distances are compared as integers, in units of the smallest positive number.
-/

namespace Quarry.Binary64

/-! ## Rounding to multiples -/

/-- The number `s` is a nearest one to `num / den`, and it is even if another one is as near. -/
def IsRounded (num den s : Nat) : Prop :=
  ∀ j : Nat, ((s * den : Nat) - (num : Int)).natAbs ≤ ((j * den : Nat) - (num : Int)).natAbs ∧
    (j ≠ s → ((j * den : Nat) - (num : Int)).natAbs = ((s * den : Nat) - (num : Int)).natAbs →
      s % 2 = 0)

/-- What is rounded half to even goes down to the quotient or up to the next number. -/
theorem roundHalfEven_cases (num den : Nat) :
    roundHalfEven num den = num / den ∧ 2 * (num % den) ≤ den ∧
        (2 * (num % den) = den → num / den % 2 = 0) ∨
      roundHalfEven num den = num / den + 1 ∧ den ≤ 2 * (num % den) ∧
        (2 * (num % den) = den → num / den % 2 = 1) := by
  rw [roundHalfEven]
  split
  · left
    omega
  · split
    · right
      omega
    · rcases Nat.mod_two_eq_zero_or_one (num / den) with h | h
      · left
        omega
      · right
        omega

/-- Multiples of `den` are equal or at least one step apart. -/
theorem mul_step_trichotomy (j r den : Nat) :
    j * den + den ≤ r * den ∨ j = r ∨ r * den + den ≤ j * den := by
  rcases Nat.lt_trichotomy j r with h | h | h
  · left
    rw [← Nat.succ_mul]
    exact Nat.mul_le_mul_right den h
  · exact Or.inr (Or.inl h)
  · right
    right
    rw [← Nat.succ_mul]
    exact Nat.mul_le_mul_right den h

theorem isRounded_roundHalfEven (num : Nat) {den : Nat} (hden : 0 < den) :
    IsRounded num den (roundHalfEven num den) := by
  intro j
  have hdiv : num / den * den + num % den = num := by
    rw [Nat.mul_comm]
    exact Nat.div_add_mod num den
  have hmod := Nat.mod_lt num hden
  have hsteps := mul_step_trichotomy j (roundHalfEven num den) den
  rcases roundHalfEven_cases num den with ⟨hr, hhalf, heven⟩ | ⟨hr, hhalf, hodd⟩
  · rw [hr] at hsteps ⊢
    rcases hsteps with hbelow | rfl | habove
    · exact ⟨by omega, fun _ _ => heven (by omega)⟩
    · exact ⟨Nat.le_refl _, fun hne => absurd rfl hne⟩
    · exact ⟨by omega, fun _ _ => heven (by omega)⟩
  · have hsucc : (num / den + 1) * den = num / den * den + den := Nat.succ_mul _ _
    rw [hr, hsucc] at hsteps
    rw [hr, hsucc]
    rcases hsteps with hbelow | rfl | habove
    · refine ⟨by omega, fun _ heq => ?_⟩
      have := hodd (by omega)
      omega
    · exact ⟨Nat.le_of_eq (by rw [hsucc]), fun hne => absurd rfl hne⟩
    · refine ⟨by omega, fun _ heq => ?_⟩
      have := hodd (by omega)
      omega

/-- Only the quotient matters: a factor `c` on both sides changes nothing. -/
theorem IsRounded.scale {num den s : Nat} (h : IsRounded num den s) {c : Nat} (hc : 0 < c) :
    IsRounded (num * c) (den * c) s := by
  have hscale : ∀ j : Nat, ((j * (den * c) : Nat) - ((num * c : Nat) : Int)).natAbs =
      ((j * den : Nat) - (num : Int)).natAbs * c := by
    intro j
    rw [← Nat.mul_assoc, Int.natCast_mul, Int.natCast_mul num, ← Int.sub_mul, Int.natAbs_mul,
      Int.natAbs_natCast]
  intro j
  rw [hscale, hscale]
  exact ⟨Nat.mul_le_mul_right c (h j).1,
    fun hne heq => (h j).2 hne (Nat.eq_of_mul_eq_mul_right hc heq)⟩

/-! ## Natural numbers -/

/-- The number one as a multiple of `2 ^ (-1074)`. -/
def unitsOfOne : Nat := 2 ^ 1074

theorem unitsOfOne_pos : 0 < unitsOfOne := by
  unfold unitsOfOne
  apply Nat.pow_pos
  decide

theorem two_pow_mul_two_pow {a b k : Nat} (h : a + b = k + 1074) :
    2 ^ a * 2 ^ b = 2 ^ k * unitsOfOne := by
  rw [← Nat.pow_add, h, Nat.pow_add, unitsOfOne]

/-- The logarithm of a quotient by one is that of a natural number. -/
theorem floorLog2_one {n : Nat} (hn : n ≠ 0) : floorLog2 n 1 = n.log2 := by
  have hreaches : reaches n 1 n.log2 = true := by
    rw [reaches, if_pos (Int.natCast_nonneg _), decide_eq_true_iff, Int.toNat_natCast, Nat.one_mul]
    exact Nat.log2_self_le hn
  have hlog : Nat.log2 1 = 0 := rfl
  rw [floorLog2, hlog]
  simp only [Int.natCast_zero, Int.sub_zero, hreaches, if_true]

/-- The significand of `n`, rounded to 53 bits. -/
def roundedSignificand (n : Nat) : Nat :=
  roundHalfEven (n * 2 ^ (52 - n.log2)) (2 ^ (n.log2 - 52))

/-- The nearest magnitude to `n` has the exponent of its highest bit and its rounded significand. -/
theorem nearestMagnitude_one {n : Nat} (hn : n ≠ 0) :
    nearestMagnitude n 1 =
      min ((n.log2 + 1022) * 2 ^ 52 + roundedSignificand n) infinityMagnitude := by
  have hmax : max (n.log2 : Int) (-1022) = n.log2 := by omega
  have hexponent : ((n.log2 : Int) + 1022).toNat = n.log2 + 1022 := by omega
  rw [nearestMagnitude, if_neg hn, floorLog2_one hn, hmax]
  simp only [hexponent]
  by_cases h : n.log2 ≤ 52
  · have hshift : ((52 : Int) - n.log2).toNat = 52 - n.log2 := by omega
    have hdown : n.log2 - 52 = 0 := by omega
    rw [if_pos (by omega), hshift, roundedSignificand, hdown, Nat.pow_zero]
  · have hshift : (-((52 : Int) - n.log2)).toNat = n.log2 - 52 := by omega
    have hup : 52 - n.log2 = 0 := by omega
    rw [if_neg (by omega), hshift, roundedSignificand, hup, Nat.one_mul, Nat.pow_zero, Nat.mul_one]

/-- A rounded significand has its leading bit, or is one too large and carries. -/
theorem roundedSignificand_bounds {n : Nat} (hn : n ≠ 0) :
    2 ^ 52 ≤ roundedSignificand n ∧ roundedSignificand n ≤ 2 ^ 53 := by
  have hden : 0 < 2 ^ (n.log2 - 52) := Nat.two_pow_pos _
  have hpow : ∀ k, 2 ^ (52 + k) * 2 ^ (n.log2 - 52) = 2 ^ (n.log2 + k) * 2 ^ (52 - n.log2) := by
    intro k
    rw [← Nat.pow_add, ← Nat.pow_add]
    congr 1
    omega
  have hlow : 2 ^ 52 ≤ n * 2 ^ (52 - n.log2) / 2 ^ (n.log2 - 52) := by
    rw [Nat.le_div_iff_mul_le hden, hpow 0]
    exact Nat.mul_le_mul_right _ (Nat.log2_self_le hn)
  have hhigh : n * 2 ^ (52 - n.log2) / 2 ^ (n.log2 - 52) < 2 ^ 53 := by
    rw [Nat.div_lt_iff_lt_mul hden, hpow 1]
    exact Nat.mul_lt_mul_of_pos_right Nat.lt_log2_self (Nat.two_pow_pos _)
  rcases roundHalfEven_cases (n * 2 ^ (52 - n.log2)) (2 ^ (n.log2 - 52)) with ⟨h, -⟩ | ⟨h, -⟩
  · rw [roundedSignificand, h]
    omega
  · rw [roundedSignificand, h]
    omega

/-- The significand is the number of units of its exponent that is nearest to `n`. -/
theorem isRounded_roundedSignificand (n : Nat) :
    IsRounded (n * unitsOfOne) (2 ^ (n.log2 + 1022)) (roundedSignificand n) := by
  obtain ⟨c, hone, hunit⟩ : ∃ c, 52 - n.log2 + c = 52 ∧ n.log2 - 52 + c = n.log2 :=
    ⟨min n.log2 52, by omega, by omega⟩
  have h : IsRounded _ _ (roundedSignificand n) :=
    isRounded_roundHalfEven (n * 2 ^ (52 - n.log2)) (Nat.two_pow_pos (n.log2 - 52))
  have hscaled := h.scale (Nat.two_pow_pos (c + 1022))
  have hnum : n * 2 ^ (52 - n.log2) * 2 ^ (c + 1022) = n * unitsOfOne := by
    have hsum : 52 - n.log2 + (c + 1022) = 0 + 1074 := by omega
    rw [Nat.mul_assoc, two_pow_mul_two_pow hsum, Nat.pow_zero, Nat.one_mul]
  have hden : 2 ^ (n.log2 - 52) * 2 ^ (c + 1022) = 2 ^ (n.log2 + 1022) := by
    rw [← Nat.pow_add, ← Nat.add_assoc, hunit]
  rw [hnum, hden] at hscaled
  exact hscaled

/-- The power of two with the exponent of `n` is no larger than `n`. -/
theorem two_pow_le_mul_unitsOfOne {n : Nat} (hn : n ≠ 0) :
    2 ^ 52 * 2 ^ (n.log2 + 1022) ≤ n * unitsOfOne := by
  have h : 52 + (n.log2 + 1022) = n.log2 + 1074 := by omega
  rw [two_pow_mul_two_pow h]
  exact Nat.mul_le_mul_right _ (Nat.log2_self_le hn)

/-! ## Nearest numbers -/

/-- How far `v`, as a multiple of `2 ^ (-1074)`, lies from the integer `n`. -/
def distance (v n : Int) : Nat :=
  (v - n * unitsOfOne).natAbs

theorem distance_neg (v n : Int) : distance (-v) (-n) = distance v n := by
  rw [distance, distance, Int.neg_mul, Int.sub_neg, ← Int.natAbs_neg, Int.neg_add, Int.neg_neg,
    Int.sub_eq_add_neg]

/-- The nearest magnitude to a number of 64 bits is that of a finite number. -/
theorem nearestMagnitude_of_lt {n : Nat} (hn : n ≠ 0) (hlt : n < 2 ^ 64) :
    nearestMagnitude n 1 = (n.log2 + 1022) * 2 ^ 52 + roundedSignificand n ∧
      nearestMagnitude n 1 < infinityMagnitude := by
  have hlog : n.log2 < 64 := (Nat.log2_lt hn).mpr hlt
  have hbounds := roundedSignificand_bounds hn
  have hfinite : (n.log2 + 1022) * 2 ^ 52 + roundedSignificand n < infinityMagnitude := by
    rw [infinityMagnitude]
    omega
  rw [nearestMagnitude_one hn, Nat.min_eq_left (Nat.le_of_lt hfinite)]
  exact ⟨rfl, hfinite⟩

/-- The absolute value of the nearest magnitude is the rounded significand at its exponent. -/
theorem absOf_nearestMagnitude {n : Nat} (hn : n ≠ 0) (hlt : n < 2 ^ 64) :
    absOf (nearestMagnitude n 1) = roundedSignificand n * 2 ^ (n.log2 + 1022) := by
  have hbounds := roundedSignificand_bounds hn
  rw [(nearestMagnitude_of_lt hn hlt).1, absOf_add hbounds.1 hbounds.2]

/-- No finite number is nearer to `n` than that of `nearestMagnitude n 1`, and if another one is as
near then the fraction is even. The numbers below the power of two of `n` are farther away than that
power is; the others are multiples of the unit to which `n` is rounded. -/
theorem nearestMagnitude_spec {n : Nat} (hlt : n < 2 ^ 64) {v : Int} {m : Nat}
    (hv : v = absOf m ∨ v = -(absOf m : Int)) :
    distance (absOf (nearestMagnitude n 1)) n ≤ distance v n ∧
      (v ≠ absOf (nearestMagnitude n 1) →
        distance v n = distance (absOf (nearestMagnitude n 1)) n →
          nearestMagnitude n 1 % 2 = 0) := by
  by_cases hn : n = 0
  · subst hn
    have hzero : distance (absOf (nearestMagnitude 0 1)) (0 : Nat) = 0 := by
      rw [distance, Int.natCast_zero, Int.zero_mul]
      rfl
    rw [hzero]
    exact ⟨Nat.zero_le _, fun _ _ => rfl⟩
  have hrounded := isRounded_roundedSignificand n
  have hlow := two_pow_le_mul_unitsOfOne hn
  have hmagnitude := (nearestMagnitude_of_lt hn hlt).1
  rw [absOf_nearestMagnitude hn hlt]
  unfold distance
  rw [← Int.natCast_mul]
  by_cases hgrid : (n.log2 + 1022 + 1) * 2 ^ 52 ≤ m ∧ v = absOf m
  · obtain ⟨hm, rfl⟩ := hgrid
    obtain ⟨j, hj⟩ := exists_absOf_eq_mul hm
    rw [hj]
    refine ⟨(hrounded j).1, fun hne heq => ?_⟩
    have hjs : j ≠ roundedSignificand n := by
      rintro rfl
      exact hne rfl
    have heven := (hrounded j).2 hjs heq
    omega
  · have hpower := (hrounded (2 ^ 52)).1
    have hbelow : v < (2 ^ 52 * 2 ^ (n.log2 + 1022) : Nat) := by
      rw [← absOf_add (Nat.le_refl (2 ^ 52)) (by omega)]
      rcases hv with rfl | rfl
      · have hm : m < (n.log2 + 1022) * 2 ^ 52 + 2 ^ 52 := by omega
        exact Int.ofNat_lt.mpr (absOf_strictMono hm)
      · have hpos := absOf_strictMono (show 0 < (n.log2 + 1022) * 2 ^ 52 + 2 ^ 52 by omega)
        omega
    omega

/-- Values `v` and `w` that are nearest to the integers `m < n` do not stand in the opposite order.
-/
theorem le_of_nearest {v w m n : Int} (hmn : m < n) (hv : distance v m ≤ distance w m)
    (hw : distance w n ≤ distance v n) : v ≤ w := by
  have hfar : m * unitsOfOne < n * unitsOfOne :=
    Int.mul_lt_mul_of_pos_right hmn (Int.ofNat_lt.mpr unitsOfOne_pos)
  unfold distance at hv hw
  generalize m * (unitsOfOne : Int) = a at *
  generalize n * (unitsOfOne : Int) = b at *
  omega

theorem nearestMagnitude_mono {m n : Nat} (hmn : m ≤ n) (hlt : n < 2 ^ 64) :
    nearestMagnitude m 1 ≤ nearestMagnitude n 1 := by
  rcases Nat.eq_or_lt_of_le hmn with rfl | hlt'
  · exact Nat.le_refl _
  · have hm := (nearestMagnitude_spec (Nat.lt_trans hlt' hlt) (m := nearestMagnitude n 1)
      (Or.inl rfl)).1
    have hn := (nearestMagnitude_spec hlt (m := nearestMagnitude m 1) (Or.inl rfl)).1
    have hle := le_of_nearest (Int.ofNat_lt.mpr hlt') hm hn
    exact absOf_strictMono.le_iff_le.mp (Int.ofNat_le.mp hle)

/-! ## Integers -/

/-- The number `x` is finite and a nearest one to the integer `n`, its fraction is even if another
number is as near, and zero is positive. -/
structure IsNearestEven (x : Binary64) (n : Int) : Prop where
  finite : x.isFinite = true
  nearest : ∀ y : Binary64, y.isFinite = true → distance x.scaled n ≤ distance y.scaled n
  even : ∀ y : Binary64, y.isFinite = true → y.scaled ≠ x.scaled →
    distance y.scaled n = distance x.scaled n → x.fraction % 2 = 0
  sign : x.isNegative = decide (n < 0)

theorem scaled_eq (x : Binary64) :
    x.scaled = absOf x.magnitude ∨ x.scaled = -absOf x.magnitude := by
  rw [scaled, ← scaledMagnitude_eq]
  split
  · exact Or.inr rfl
  · exact Or.inl rfl

theorem nearestMagnitude_lt {n : Nat} (hlt : n < 2 ^ 64) :
    nearestMagnitude n 1 < infinityMagnitude := by
  by_cases hn : n = 0
  · rw [hn]
    decide
  · exact (nearestMagnitude_of_lt hn hlt).2

theorem magnitude_ofInt {n : Int} (hn : n.natAbs < 2 ^ 64) :
    (ofInt n).magnitude = nearestMagnitude n.natAbs 1 :=
  magnitude_ofMagnitude _ (Nat.lt_trans (nearestMagnitude_lt hn) (by decide))

theorem isNegative_ofInt {n : Int} (hn : n.natAbs < 2 ^ 64) :
    (ofInt n).isNegative = decide (n < 0) :=
  isNegative_ofMagnitude _ (Nat.lt_trans (nearestMagnitude_lt hn) (by decide))

theorem totalKey_ofInt {n : Int} (hn : n.natAbs < 2 ^ 64) :
    (ofInt n).totalKey =
      if n < 0 then -(nearestMagnitude n.natAbs 1 : Int) - 1 else nearestMagnitude n.natAbs 1 := by
  rw [totalKey, isNegative_ofInt hn, magnitude_ofInt hn]
  simp only [decide_eq_true_eq]

/-- Rounding keeps the order: a larger integer has no smaller place. -/
theorem totalKey_ofInt_mono {m n : Int} (hmn : m ≤ n) (hm : m.natAbs < 2 ^ 64)
    (hn : n.natAbs < 2 ^ 64) : (ofInt m).totalKey ≤ (ofInt n).totalKey := by
  rw [totalKey_ofInt hm, totalKey_ofInt hn]
  by_cases hneg : n < 0
  · have hle := nearestMagnitude_mono (m := n.natAbs) (n := m.natAbs) (by omega) hm
    rw [if_pos (by omega), if_pos hneg]
    omega
  · rw [if_neg hneg]
    split
    · omega
    · have hle := nearestMagnitude_mono (m := m.natAbs) (n := n.natAbs) (by omega) hn
      omega

theorem scaled_ofInt_natCast {n : Nat} (hn : n < 2 ^ 64) :
    (ofInt n).scaled = absOf (nearestMagnitude n 1) := by
  have habs : (n : Int).natAbs = n := Int.natAbs_natCast n
  rw [scaled, scaledMagnitude_eq, magnitude_ofInt (by omega), isNegative_ofInt (by omega), habs,
    decide_eq_false (by omega), if_neg Bool.false_ne_true]

theorem scaled_ofInt_neg {n : Nat} (hn : n < 2 ^ 64) :
    (ofInt (-n)).scaled = -(absOf (nearestMagnitude n 1) : Int) := by
  rcases Nat.eq_zero_or_pos n with rfl | hpos
  · rfl
  · have habs : (-(n : Int)).natAbs = n := by omega
    rw [scaled, scaledMagnitude_eq, magnitude_ofInt (by omega), isNegative_ofInt (by omega), habs,
      decide_eq_true (by omega), if_pos rfl]

theorem fraction_mod_two_of_magnitude {x : Binary64} (h : x.magnitude % 2 = 0) :
    x.fraction % 2 = 0 := by
  rw [fraction]
  omega

/-- An integer of 64 bits is rounded to nearest, ties to even. -/
theorem isNearestEven_ofInt {n : Int} (hn : n.natAbs < 2 ^ 64) : IsNearestEven (ofInt n) n where
  finite := by
    rw [isFinite, magnitude_ofInt hn]
    exact decide_eq_true (nearestMagnitude_lt hn)
  sign := isNegative_ofInt hn
  nearest := by
    intro y _
    obtain ⟨k, rfl | rfl⟩ := n.eq_nat_or_neg
    · have hk : k < 2 ^ 64 := by omega
      rw [scaled_ofInt_natCast hk]
      exact (nearestMagnitude_spec hk y.scaled_eq).1
    · have hk : k < 2 ^ 64 := by omega
      have hy : -y.scaled = absOf y.magnitude ∨ -y.scaled = -(absOf y.magnitude : Int) := by
        have := y.scaled_eq
        omega
      rw [scaled_ofInt_neg hk, distance_neg, ← distance_neg y.scaled, Int.neg_neg]
      exact (nearestMagnitude_spec hk hy).1
  even := by
    intro y _ hne heq
    apply fraction_mod_two_of_magnitude
    rw [magnitude_ofInt hn]
    obtain ⟨k, rfl | rfl⟩ := n.eq_nat_or_neg
    · have hk : k < 2 ^ 64 := by omega
      rw [scaled_ofInt_natCast hk] at hne heq
      rw [Int.natAbs_natCast]
      exact (nearestMagnitude_spec hk y.scaled_eq).2 hne heq
    · have hk : k < 2 ^ 64 := by omega
      have hy : -y.scaled = absOf y.magnitude ∨ -y.scaled = -(absOf y.magnitude : Int) := by
        have := y.scaled_eq
        omega
      rw [scaled_ofInt_neg hk] at hne heq
      rw [distance_neg, ← distance_neg y.scaled, Int.neg_neg] at heq
      rw [Int.natAbs_neg, Int.natAbs_natCast]
      exact (nearestMagnitude_spec hk hy).2 (by omega) heq

end Quarry.Binary64
