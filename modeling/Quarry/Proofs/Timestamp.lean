import Mathlib.Data.Int.Order.Basic
import Mathlib.Data.Nat.Basic
import Mathlib.Order.Compare
import Quarry.Timestamp

/-!
# Moments as numbers

Outside of leap seconds the order of moments is that of their distances from 1 January 2000. The
distance in microseconds keeps the order among moments that are whole microseconds, and each whole
number is the distance of one such moment.
-/

namespace Quarry.Timestamp

/-- The nanoseconds from 1 January 2000 to `t`. -/
def nanosSince2000 (t : Timestamp) : Int :=
  ((t.day - 10957) * 86400 + t.second) * 1000000000 + t.nano

/-- The moment `t` is a whole microsecond and in no leap second. -/
def IsWholeMicros (t : Timestamp) : Prop :=
  t.nano < 1000000000 ∧ t.nano % 1000 = 0

instance (t : Timestamp) : Decidable t.IsWholeMicros :=
  inferInstanceAs (Decidable (_ ∧ _))

theorem compare_def (a b : Timestamp) :
    compare a b =
      (compare a.day b.day).then ((compare a.second b.second).then (compare a.nano b.nano)) :=
  rfl

theorem compare_swap (a b : Timestamp) : (compare a b).swap = compare b a := by
  rw [compare_def, compare_def, Ordering.swap_then, Ordering.swap_then,
    ← Std.OrientedCmp.eq_swap, ← Std.OrientedCmp.eq_swap, ← Std.OrientedCmp.eq_swap]

instance : Std.TransOrd Timestamp :=
  inferInstanceAs (Std.TransCmp
    (compareLex (compareOn day) (compareLex (compareOn second) (compareOn nano))))

instance : Std.LawfulEqOrd Timestamp where
  eq_of_compare {a b} h := by
    rw [compare_def, Ordering.then_eq_eq, Ordering.then_eq_eq] at h
    obtain ⟨hday, hsecond, hnano⟩ := h
    cases a
    cases b
    simp only [Timestamp.mk.injEq]
    exact ⟨Std.LawfulEqOrd.eq_of_compare hday, Std.LawfulEqOrd.eq_of_compare hsecond,
      Std.LawfulEqOrd.eq_of_compare hnano⟩

/-- Moments in no leap second are in the order of their distances from 1 January 2000. -/
theorem compare_eq_nanos {a b : Timestamp} (ha : a.nano < 1000000000) (hb : b.nano < 1000000000) :
    compare a b = compare a.nanosSince2000 b.nanosSince2000 := by
  have hsa := a.second_lt
  have hsb := b.second_lt
  rw [compare_def]
  unfold nanosSince2000
  rcases lt_trichotomy a.day b.day with hd | hd | hd
  · rw [compare_lt_iff_lt.mpr hd, eq_comm]
    exact compare_lt_iff_lt.mpr (by omega)
  · rw [compare_eq_iff_eq.mpr hd, hd]
    rcases lt_trichotomy a.second b.second with hs | hs | hs
    · rw [compare_lt_iff_lt.mpr hs, eq_comm]
      exact compare_lt_iff_lt.mpr (by omega)
    · rw [compare_eq_iff_eq.mpr hs, hs]
      rcases lt_trichotomy a.nano b.nano with hn | hn | hn
      · rw [compare_lt_iff_lt.mpr hn, eq_comm]
        exact compare_lt_iff_lt.mpr (by omega)
      · rw [compare_eq_iff_eq.mpr hn, eq_comm]
        exact compare_eq_iff_eq.mpr (by omega)
      · rw [compare_gt_iff_gt.mpr hn, eq_comm]
        exact compare_gt_iff_gt.mpr (by omega)
    · rw [compare_gt_iff_gt.mpr hs, eq_comm]
      exact compare_gt_iff_gt.mpr (by omega)
  · rw [compare_gt_iff_gt.mpr hd, eq_comm]
    exact compare_gt_iff_gt.mpr (by omega)

theorem IsWholeMicros.nanos_eq {t : Timestamp} (h : t.IsWholeMicros) :
    t.nanosSince2000 = t.microsSince2000 * 1000 := by
  have hdvd : (1000 : Int) ∣ t.nanosSince2000 := by
    have hmod := h.2
    unfold nanosSince2000
    omega
  exact (Int.tdiv_mul_cancel hdvd).symm

/-- Whole microseconds are in the order of `microsSince2000`. -/
theorem IsWholeMicros.compare_eq {a b : Timestamp} (ha : a.IsWholeMicros) (hb : b.IsWholeMicros) :
    compare a b = compare a.microsSince2000 b.microsSince2000 := by
  rw [compare_eq_nanos ha.1 hb.1, ha.nanos_eq, hb.nanos_eq]
  rcases lt_trichotomy a.microsSince2000 b.microsSince2000 with h | h | h
  · rw [compare_lt_iff_lt.mpr h]
    exact compare_lt_iff_lt.mpr (by omega)
  · rw [compare_eq_iff_eq.mpr h]
    exact compare_eq_iff_eq.mpr (by omega)
  · rw [compare_gt_iff_gt.mpr h]
    exact compare_gt_iff_gt.mpr (by omega)

/-- The moment that lies `m` microseconds after 1 January 2000. -/
def ofMicros (m : Int) : Timestamp where
  day := m / 86400000000 + 10957
  second := (m / 1000000 % 86400).toNat
  nano := (m % 1000000).toNat * 1000
  second_lt := by omega
  nano_lt := by omega
  leap_ends_minute h := by omega

theorem isWholeMicros_ofMicros (m : Int) : (ofMicros m).IsWholeMicros := by
  constructor
  · show (m % 1000000).toNat * 1000 < 1000000000
    omega
  · exact Nat.mul_mod_left _ 1000

theorem microsSince2000_ofMicros (m : Int) : (ofMicros m).microsSince2000 = m := by
  have h := (isWholeMicros_ofMicros m).nanos_eq
  have hnanos : (ofMicros m).nanosSince2000 = m * 1000 := by
    show ((m / 86400000000 + 10957 - 10957) * 86400 + ((m / 1000000 % 86400).toNat : Int)) *
      1000000000 + (((m % 1000000).toNat * 1000 : Nat) : Int) = m * 1000
    omega
  omega

/-- A whole microsecond is compared with another one by its number. -/
theorem compare_ofMicros (m : Int) {t : Timestamp} (h : t.IsWholeMicros) :
    compare (ofMicros m) t = compare m t.microsSince2000 := by
  rw [(isWholeMicros_ofMicros m).compare_eq h, microsSince2000_ofMicros]

end Quarry.Timestamp
