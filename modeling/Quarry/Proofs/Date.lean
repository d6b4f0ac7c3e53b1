import Mathlib.Tactic.ByContra
import Quarry.Date

/-!
# Dates and day numbers

A day number is a year that begins in March and a day of that year (`Date.ofMarch`). Within an era
the year is found by taking the leap days away, and that this finds the right year is seen by
splitting the day of the era into centuries, spans of four years, years and days
(`Date.IsSplit`). Then a day number has one date, which exists, and the date has the day number.
-/

namespace Quarry.Date

/-! ## Years that begin in March -/

/-- The number of days before a `year` that begins in March, from the first of March of year zero.
-/
def daysBefore (year : Int) : Int :=
  365 * year + year / 4 - year / 100 + year / 400

/-- The date of a `day`, counted from zero, of a `year` that begins in March. -/
def ofMarch (year day : Int) : Date :=
  let monthFromMarch := (5 * day + 2) / 153
  let month := if monthFromMarch < 10 then monthFromMarch + 3 else monthFromMarch - 9
  ⟨if month ≤ 2 then year + 1 else year, month.toNat,
    (day - (153 * monthFromMarch + 2) / 5 + 1).toNat⟩

/-- A day of an era lies in a `century`, a `span` of four years, a `year` of it and a `day` of the
year. Only the last year of a span may have 366 days, and only the last century a span of its own at
the end. -/
structure IsSplit (dayOfEra century span year day : Int) : Prop where
  eq : dayOfEra = 36524 * century + 1461 * span + 365 * year + day
  century_nonneg : 0 ≤ century
  century_le : century ≤ 3
  span_nonneg : 0 ≤ span
  span_le : span ≤ 24
  year_nonneg : 0 ≤ year
  year_le : year ≤ 3
  day_nonneg : 0 ≤ day
  day_lt : day < 365 ∨ year = 3 ∧ day = 365
  last : 1461 * span + 365 * year + day < 36524 ∨
    century = 3 ∧ 1461 * span + 365 * year + day = 36524

/-- Every day `e` of an era of 400 years can be split. -/
theorem exists_isSplit {e : Int} (h0 : 0 ≤ e) (h1 : e < 146097) :
    ∃ century span year day, IsSplit e century span year day := by
  have hcentury : ∃ c r : Int, e = 36524 * c + r ∧ 0 ≤ c ∧ c ≤ 3 ∧ 0 ≤ r ∧
      (r < 36524 ∨ c = 3 ∧ r = 36524) := by
    refine ⟨e / 36524 - e / 146096, e - 36524 * (e / 36524 - e / 146096), ?_⟩
    omega
  obtain ⟨c, r, he, hc0, hc3, hr0, hr⟩ := hcentury
  have hspan : ∃ q s : Int, r = 1461 * q + s ∧ 0 ≤ q ∧ q ≤ 24 ∧ 0 ≤ s ∧ s ≤ 1460 := by
    refine ⟨r / 1461, r % 1461, ?_⟩
    omega
  obtain ⟨q, s, hrq, hq0, hq24, hs0, hs⟩ := hspan
  have hyear : ∃ a t : Int, s = 365 * a + t ∧ 0 ≤ a ∧ a ≤ 3 ∧ 0 ≤ t ∧
      (t < 365 ∨ a = 3 ∧ t = 365) := by
    refine ⟨s / 365 - s / 1460, s - 365 * (s / 365 - s / 1460), ?_⟩
    omega
  obtain ⟨a, t, hsa, ha0, ha3, ht0, ht⟩ := hyear
  exact ⟨c, q, a, t, by omega, hc0, hc3, hq0, hq24, ha0, ha3, ht0, ht, by omega⟩

/-- Taking the leap days away leaves years of 365 days, so the quotient is the year of the era. -/
theorem IsSplit.yearOfEra_eq {e century span year day : Int}
    (h : IsSplit e century span year day) :
    (e - e / 1460 + e / 36524 - e / 146096) / 365 = 100 * century + 4 * span + year := by
  obtain ⟨he, hc0, hc3, hq0, hq24, ha0, ha3, ht0, ht, hlast⟩ := h
  have hcentury : e / 36524 - e / 146096 = century := by omega
  have hleap : e / 1460 =
      25 * century + span + (24 * century + span + 365 * year + day) / 1460 := by omega
  have hone : (24 * century + span + 365 * year + day) / 1460 = 0 ∨
      (24 * century + span + 365 * year + day) / 1460 = 1 ∧ year = 3 ∧ 0 < day := by omega
  have hdays : e - e / 1460 + e / 36524 - e / 146096 =
      365 * (100 * century + 4 * span + year) +
        (day - (24 * century + span + 365 * year + day) / 1460) := by omega
  rw [hdays]
  omega

/-- The days before a year, from the parts that the year is made of. -/
theorem IsSplit.daysBefore_eq {e century span year day : Int} (h : IsSplit e century span year day)
    (era : Int) :
    daysBefore (100 * century + 4 * span + year + era * 400) + day = era * 146097 + e := by
  obtain ⟨he, hc0, hc3, hq0, hq24, ha0, ha3, ht0, ht, hlast⟩ := h
  unfold daysBefore
  omega

/-- Without the days before its year, a day of an era is a day of the year. -/
theorem IsSplit.dayOfYear_eq {e century span year day : Int} (h : IsSplit e century span year day) :
    e - (365 * (100 * century + 4 * span + year) + (100 * century + 4 * span + year) / 4 -
      (100 * century + 4 * span + year) / 100) = day := by
  obtain ⟨he, hc0, hc3, hq0, hq24, ha0, ha3, ht0, ht, hlast⟩ := h
  omega

theorem IsSplit.isLeapYear {e century span year day : Int} (h : IsSplit e century span year day)
    (era : Int) (hday : day = 365) :
    isLeapYear (100 * century + 4 * span + year + era * 400 + 1) = true := by
  obtain ⟨he, hc0, hc3, hq0, hq24, ha0, ha3, ht0, ht, hlast⟩ := h
  rw [Date.isLeapYear, decide_eq_true_eq]
  omega

/-- Every day number `n` is that of a day of a year that begins in March. -/
theorem exists_ofMarch (n : Int) :
    ∃ year day, 0 ≤ day ∧ day ≤ 365 ∧ (day = 365 → isLeapYear (year + 1) = true) ∧
      n = daysBefore year + day - 719468 ∧ ofDayNumber n = ofMarch year day := by
  have h0 : 0 ≤ (n + 719468) % 146097 := Int.emod_nonneg _ (by omega)
  have h1 : (n + 719468) % 146097 < 146097 := Int.emod_lt_of_pos _ (by omega)
  have hn : n + 719468 = (n + 719468) / 146097 * 146097 + (n + 719468) % 146097 := by omega
  obtain ⟨c, q, a, t, hsplit⟩ := exists_isSplit h0 h1
  have hyear := hsplit.yearOfEra_eq
  have hdays := hsplit.daysBefore_eq ((n + 719468) / 146097)
  refine ⟨100 * c + 4 * q + a + (n + 719468) / 146097 * 400, t, hsplit.day_nonneg, ?_,
    hsplit.isLeapYear _, ?_, ?_⟩
  · have hday := hsplit.day_lt
    omega
  · omega
  · have hdayOfYear := hsplit.dayOfYear_eq
    unfold ofDayNumber ofMarch
    simp only [hyear, hdayOfYear]

/-- From March to December a day is in the year that began in March. -/
theorem ofMarch_of_lt {year day : Int} (h : (5 * day + 2) / 153 < 10) (h0 : 0 ≤ day) :
    ofMarch year day = ⟨year, ((5 * day + 2) / 153 + 3).toNat,
      (day - (153 * ((5 * day + 2) / 153) + 2) / 5 + 1).toNat⟩ := by
  have hmonth : ¬ (5 * day + 2) / 153 + 3 ≤ 2 := by omega
  simp only [ofMarch, if_pos h, if_neg hmonth]

theorem ofMarch_of_ge {year day : Int} (h : ¬ (5 * day + 2) / 153 < 10) (h1 : day ≤ 365) :
    ofMarch year day = ⟨year + 1, ((5 * day + 2) / 153 - 9).toNat,
      (day - (153 * ((5 * day + 2) / 153) + 2) / 5 + 1).toNat⟩ := by
  have hmonth : (5 * day + 2) / 153 - 9 ≤ 2 := by omega
  simp only [ofMarch, if_neg h, if_pos hmonth]

/-- The count of days gives back the `day` of the `year` that a date was made from. -/
theorem toDayNumber_ofMarch {year day : Int} (h0 : 0 ≤ day) (h1 : day ≤ 365) :
    (ofMarch year day).toDayNumber = daysBefore year + day - 719468 := by
  by_cases h : (5 * day + 2) / 153 < 10
  · have hmonth : ¬ ((5 * day + 2) / 153 + 3).toNat ≤ 2 := by omega
    rw [ofMarch_of_lt h h0]
    simp only [toDayNumber, if_neg hmonth, daysBefore]
    omega
  · have hmonth : ((5 * day + 2) / 153 - 9).toNat ≤ 2 := by omega
    rw [ofMarch_of_ge h h1]
    simp only [toDayNumber, if_pos hmonth, daysBefore]
    omega

/-- A month from March to January is long enough for the days that are counted in it, and February
is so in a leap year. -/
theorem isValid_ofMarch {year day : Int} (h0 : 0 ≤ day) (h1 : day ≤ 365)
    (hleap : day = 365 → isLeapYear (year + 1) = true) : (ofMarch year day).isValid = true := by
  by_cases h : (5 * day + 2) / 153 < 10
  · rw [ofMarch_of_lt h h0, isValid, decide_eq_true_eq]
    generalize hmonth : (5 * day + 2) / 153 = month at h ⊢
    have hmonths : month = 0 ∨ month = 1 ∨ month = 2 ∨ month = 3 ∨ month = 4 ∨ month = 5 ∨
        month = 6 ∨ month = 7 ∨ month = 8 ∨ month = 9 := by omega
    rcases hmonths with rfl | rfl | rfl | rfl | rfl | rfl | rfl | rfl | rfl | rfl <;>
      simp [daysInMonth] <;> omega
  · rw [ofMarch_of_ge h h1, isValid, decide_eq_true_eq]
    have hmonths : (5 * day + 2) / 153 = 10 ∨ (5 * day + 2) / 153 = 11 := by omega
    rcases hmonths with hmonth | hmonth
    · rw [hmonth]
      simp [daysInMonth]
      omega
    · rw [hmonth]
      by_cases hday : day = 365
      · rw [hday] at hleap ⊢
        simp [daysInMonth, hleap rfl]
      · have hshort : (if isLeapYear (year + 1) = true then 29 else 28) ≥ 28 := by
          split <;> omega
        simp [daysInMonth]
        omega

/-- A day number `n` is that of its date. -/
theorem toDayNumber_ofDayNumber (n : Int) : (ofDayNumber n).toDayNumber = n := by
  obtain ⟨year, day, h0, h1, -, hn, hdate⟩ := exists_ofMarch n
  rw [hdate, toDayNumber_ofMarch h0 h1, ← hn]

/-- The date of a day number `n` exists. -/
theorem isValid_ofDayNumber (n : Int) : (ofDayNumber n).isValid = true := by
  obtain ⟨year, day, h0, h1, hleap, -, hdate⟩ := exists_ofMarch n
  rw [hdate]
  exact isValid_ofMarch h0 h1 hleap

theorem isValid_bounds {d : Date} (h : d.isValid = true) :
    1 ≤ d.month ∧ d.month ≤ 12 ∧ 1 ≤ d.day ∧ d.day ≤ 31 := by
  rw [isValid, decide_eq_true_eq] at h
  obtain ⟨h1, h12, hday, hle⟩ := h
  have hlong : daysInMonth d.year d.month ≤ 31 := by
    unfold daysInMonth
    split
    · split <;> decide
    · split <;> decide
  exact ⟨h1, h12, hday, Nat.le_trans hle hlong⟩

/-! ## Years -/

/-- The first day of a `year` in the count of days. -/
theorem toDayNumber_newYear (year : Int) :
    toDayNumber ⟨year, 1, 1⟩ = daysBefore (year - 1) + 306 - 719468 := by
  simp [toDayNumber, daysBefore]
  omega

theorem daysBefore_mono {a b : Int} (h : a ≤ b) : daysBefore a ≤ daysBefore b := by
  unfold daysBefore
  omega

theorem daysBefore_succ (year : Int) : daysBefore year + 365 ≤ daysBefore (year + 1) := by
  unfold daysBefore
  omega

/-- A day `n` is in a `year` or a later one just if it does not lie before the first day of the
year. -/
theorem le_year_ofDayNumber_iff (year n : Int) :
    year ≤ (ofDayNumber n).year ↔ toDayNumber ⟨year, 1, 1⟩ ≤ n := by
  obtain ⟨y, day, h0, h1, -, hn, hdate⟩ := exists_ofMarch n
  rw [hdate, toDayNumber_newYear, hn]
  by_cases h : (5 * day + 2) / 153 < 10
  · rw [ofMarch_of_lt h h0]
    show year ≤ y ↔ _
    constructor
    · intro hle
      have hmono := daysBefore_mono (a := year - 1) (b := y - 1) (by omega)
      have hsucc := daysBefore_succ (y - 1)
      rw [Int.sub_add_cancel] at hsucc
      omega
    · intro hle
      by_contra hlt
      have hmono := daysBefore_mono (a := y) (b := year - 1) (by omega)
      omega
  · rw [ofMarch_of_ge h h1]
    show year ≤ y + 1 ↔ _
    constructor
    · intro hle
      have hmono := daysBefore_mono (a := year - 1) (b := y) (by omega)
      omega
    · intro hle
      by_contra hlt
      have hmono := daysBefore_mono (a := y + 1) (b := year - 1) (by omega)
      have hsucc := daysBefore_succ y
      omega

/-- A day `n` is in a `year` or an earlier one just if it does not lie behind the last day of the
year. -/
theorem year_ofDayNumber_le_iff (year n : Int) :
    (ofDayNumber n).year ≤ year ↔ n ≤ toDayNumber ⟨year, 12, 31⟩ := by
  have hlast : toDayNumber ⟨year, 12, 31⟩ + 1 = toDayNumber ⟨year + 1, 1, 1⟩ := by
    rw [toDayNumber_newYear, Int.add_sub_cancel]
    simp [toDayNumber, daysBefore]
    omega
  have h := le_year_ofDayNumber_iff (year + 1) n
  omega

end Quarry.Date
