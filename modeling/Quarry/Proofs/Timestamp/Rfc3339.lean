import Quarry.Proofs.Date
import Quarry.Proofs.Except
import Quarry.Timestamp.Rfc3339

/-!
# Timestamps and their text

What is written of a moment is read back: by the lenient form always (`readLenient_renderZulu`), as
long as the moment lies in the years that there are, and by the strict form if the year has four
digits (`readStrict_renderZulu`). Each part of the text is read by its own lemma, which says what is
left of the text.
-/

namespace Quarry.Timestamp

/-! ## Decimal digits -/

/-- The characters of the number `n` with zeros in front up to a `width`. -/
def paddedChars (width n : Nat) : List Char :=
  List.replicate (width - (Nat.toDigits 10 n).length) '0' ++ Nat.toDigits 10 n

theorem toList_padded (width n : Nat) : (padded width n).toList = paddedChars width n :=
  String.toList_ofList

theorem isDigit_paddedChars (width n : Nat) : ∀ c ∈ paddedChars width n, c.isDigit = true := by
  intro c hc
  rcases List.mem_append.mp hc with h | h
  · rw [List.eq_of_mem_replicate h]
    rfl
  · exact Nat.isDigit_of_mem_toDigits (by decide) (by decide) h

theorem numberOf_paddedChars (width n : Nat) : numberOf (paddedChars width n) = n := by
  show Nat.ofDigitChars 10 (paddedChars width n) 0 = n
  rw [paddedChars, Nat.ofDigitChars_append, Nat.ofDigitChars_replicate_zero, Nat.mul_zero,
    Nat.ofDigitChars_ten_toDigits]

theorem length_paddedChars {width n : Nat} (hn : n < 10 ^ width) (hw : 0 < width) :
    (paddedChars width n).length = width := by
  have hlen := (Nat.length_toDigits_le_iff (by decide : 1 < 10) hw).mpr hn
  rw [paddedChars, List.length_append, List.length_replicate]
  omega

theorem le_length_paddedChars (width n : Nat) : width ≤ (paddedChars width n).length := by
  rw [paddedChars, List.length_append, List.length_replicate]
  omega

/-! ## Numbers -/

/-- The text `cs` does not start with a digit. -/
def StopsDigits (cs : List Char) : Prop :=
  ∀ c ∈ cs.head?, c.isDigit = false

/-- All digits at the front are taken if what follows them is no digit or there are as many of them
as may be taken. -/
theorem leadingDigits_append {most : Nat} {cs rest : List Char}
    (hdigits : ∀ c ∈ cs, c.isDigit = true) (hmost : cs.length ≤ most)
    (hstop : cs.length = most ∨ StopsDigits rest) : leadingDigits most (cs ++ rest) = cs := by
  induction cs generalizing most with
  | nil =>
    cases most with
    | zero => rfl
    | succ most =>
      cases rest with
      | nil => rfl
      | cons c rest =>
        rcases hstop with h | h
        · cases h
        · rw [List.nil_append, leadingDigits, h c rfl]
          rfl
  | cons c cs ih =>
    rw [List.forall_mem_cons] at hdigits
    cases most with
    | zero => exact absurd hmost (Nat.not_succ_le_zero _)
    | succ most =>
      rw [List.cons_append, leadingDigits, if_pos hdigits.1,
        ih hdigits.2 (Nat.le_of_succ_le_succ hmost) (hstop.imp_left Nat.succ.inj)]

theorem length_le_byteCount (cs : List Char) : cs.length ≤ byteCount cs := by
  have hfrom (start : Nat) :
      start + cs.length ≤ cs.foldl (fun n c => n + c.utf8Size) start := by
    induction cs generalizing start with
    | nil => exact Nat.le_refl _
    | cons c cs ih =>
      have hpos := Char.utf8Size_pos c
      have hrest := ih (start + c.utf8Size)
      rw [List.foldl_cons, List.length_cons]
      omega
  have h := hfrom 0
  rw [Nat.zero_add] at h
  exact h

/-- A number `cs` in front of a text `rest` is read, and `rest` is left. -/
theorem number_append {least most : Nat} {cs : List Char} (rest : List Char)
    (hdigits : ∀ c ∈ cs, c.isDigit = true) (hleast : least ≤ cs.length) (hmost : cs.length ≤ most)
    (hstop : cs.length = most ∨ StopsDigits rest) (hfit : numberOf cs < 2 ^ 63) :
    number least most (cs ++ rest) = .ok (numberOf cs, rest) := by
  have hbytes : ¬ byteCount (cs ++ rest) < least := by
    have h := length_le_byteCount (cs ++ rest)
    rw [List.length_append] at h
    omega
  simp only [number, if_neg hbytes, leadingDigits_append hdigits hmost hstop,
    if_neg (Nat.not_lt.mpr hleast), if_neg (Nat.not_le.mpr hfit), List.drop_left]

/-- A number of two digits within its bounds is read, and `rest` is left. -/
theorem field_append {least low high n : Nat} (hleast : least ≤ 2) (hlow : low ≤ n)
    (hhigh : n ≤ high) (hn : n < 100) (rest : List Char) :
    field least low high (paddedChars 2 n ++ rest) = .ok (n, rest) := by
  have hlen : (paddedChars 2 n).length = 2 := length_paddedChars hn (by decide)
  have hnumber := number_append rest (isDigit_paddedChars 2 n)
    (hlen.symm ▸ hleast) (Nat.le_of_eq hlen) (Or.inl hlen)
    (by rw [numberOf_paddedChars]; omega)
  rw [numberOf_paddedChars] at hnumber
  rw [field, hnumber]
  exact if_pos ⟨hlow, hhigh⟩

theorem stopsDigits_cons {c : Char} (h : c.isDigit = false) (cs : List Char) :
    StopsDigits (c :: cs) := by
  intro d hd
  cases hd
  exact h

/-! ## Fractions -/

/-- The characters of a fraction of a second: none, or a point and three, six or nine digits. -/
def fractionChars (nano : Nat) : List Char :=
  if nano = 0 then []
  else if nano % 1000000 = 0 then '.' :: paddedChars 3 (nano / 1000000)
  else if nano % 1000 = 0 then '.' :: paddedChars 6 (nano / 1000)
  else '.' :: paddedChars 9 nano

theorem toList_renderFraction (nano : Nat) :
    (renderFraction nano).toList = fractionChars nano := by
  unfold renderFraction fractionChars
  split
  · rfl
  · split
    · rw [String.toList_append, toList_padded]
      rfl
    · split
      · rw [String.toList_append, toList_padded]
        rfl
      · rw [String.toList_append, toList_padded]
        rfl

/-- A fraction of up to nine digits counts from the highest of them. -/
theorem fractionOfSecond_digits {width n : Nat} (hpos : 0 < width) (hwidth : width ≤ 9)
    (hn : n < 10 ^ width) {rest : List Char} (hstop : StopsDigits rest) :
    fractionOfSecond ('.' :: (paddedChars width n ++ rest)) =
      .ok (n * 10 ^ (9 - width), rest) := by
  have hlen := length_paddedChars hn hpos
  have hfit : n < 2 ^ 63 :=
    Nat.lt_of_lt_of_le hn (Nat.le_trans (Nat.pow_le_pow_right (by decide) hwidth) (by decide))
  have hnumber : number 1 9 (paddedChars width n ++ rest) =
      .ok (numberOf (paddedChars width n), rest) :=
    number_append rest (isDigit_paddedChars width n) (hlen.symm ▸ hpos) (hlen.symm ▸ hwidth)
      (Or.inr hstop) (by rw [numberOf_paddedChars]; exact hfit)
  have hdrop : rest.dropWhile Char.isDigit = rest := by
    cases rest with
    | nil => rfl
    | cons c cs => rw [List.dropWhile_cons_of_neg (by rw [hstop c rfl]; decide)]
  rw [numberOf_paddedChars] at hnumber
  rw [fractionOfSecond, hnumber, leadingDigits_append (isDigit_paddedChars width n)
    (hlen.symm ▸ hwidth) (Or.inr hstop), hlen]
  show Except.ok (n * 10 ^ (9 - width), rest.dropWhile Char.isDigit) = _
  rw [hdrop]

theorem fractionOfSecond_fractionChars {nano : Nat} (hnano : nano < 1000000000) :
    fractionOfSecond (fractionChars nano ++ ['Z']) = .ok (nano, ['Z']) := by
  have hstop : StopsDigits ['Z'] := stopsDigits_cons rfl []
  unfold fractionChars
  split
  · next h => rw [h]; rfl
  · split
    · next h =>
      have hmul : nano / 1000000 * 10 ^ (9 - 3) = nano :=
        Nat.div_mul_cancel (Nat.dvd_of_mod_eq_zero h)
      rw [List.cons_append, fractionOfSecond_digits (by decide) (by decide) (by omega) hstop, hmul]
    · split
      · next h =>
        have hmul : nano / 1000 * 10 ^ (9 - 6) = nano :=
          Nat.div_mul_cancel (Nat.dvd_of_mod_eq_zero h)
        rw [List.cons_append, fractionOfSecond_digits (by decide) (by decide) (by omega) hstop,
          hmul]
      · have hmul : nano * 10 ^ (9 - 9) = nano := Nat.mul_one nano
        rw [List.cons_append, fractionOfSecond_digits (by decide) (by decide) (by omega) hstop,
          hmul]

/-! ## Years -/

/-- The characters of a year: four digits, or a sign and at least four. -/
def yearChars (year : Int) : List Char :=
  if 0 ≤ year ∧ year ≤ 9999 then paddedChars 4 year.natAbs
  else (if year < 0 then '-' else '+') :: paddedChars 4 year.natAbs

theorem toList_renderYear (year : Int) : (renderYear year).toList = yearChars year := by
  unfold renderYear yearChars
  split
  · exact toList_padded 4 _
  · split
    · rw [String.toList_append, toList_padded]
      rfl
    · rw [String.toList_append, toList_padded]
      rfl

theorem isBlank_of_isDigit {c : Char} (h : c.isDigit = true) : Text.isBlank c = false := by
  rw [Char.isDigit_iff_toNat] at h
  obtain ⟨h0, h9⟩ := h
  have h0 : 48 ≤ c.toNat := h0
  have h9 : c.toNat ≤ 57 := h9
  simp [Text.isBlank]
  omega

theorem exists_cons_paddedChars {width : Nat} (hw : 0 < width) (n : Nat) (rest : List Char) :
    ∃ c cs, c.isDigit = true ∧ paddedChars width n ++ rest = c :: cs := by
  have hlen := le_length_paddedChars width n
  have hdigits := isDigit_paddedChars width n
  cases hcs : paddedChars width n with
  | nil =>
    rw [hcs] at hlen
    exact absurd (Nat.lt_of_lt_of_le hw hlen) (Nat.lt_irrefl 0)
  | cons c cs =>
    rw [hcs] at hdigits
    exact ⟨c, cs ++ rest, hdigits c List.mem_cons_self, rfl⟩

theorem dropBlanks_paddedChars {width : Nat} (hw : 0 < width) (n : Nat) (rest : List Char) :
    Text.dropBlanks (paddedChars width n ++ rest) = paddedChars width n ++ rest := by
  obtain ⟨c, cs, hc, heq⟩ := exists_cons_paddedChars hw n rest
  rw [heq, Text.dropBlanks, List.dropWhile_cons_of_neg]
  rw [isBlank_of_isDigit hc]
  decide

theorem number_year {year : Int} (h : 0 ≤ year ∧ year ≤ 9999) {least : Nat} (hleast : least ≤ 4)
    (rest : List Char) :
    number least 4 (yearChars year ++ rest) = .ok (year.natAbs, rest) := by
  have hlen : (paddedChars 4 year.natAbs).length = 4 :=
    length_paddedChars (by omega) (by decide)
  have hnumber := number_append rest (isDigit_paddedChars 4 year.natAbs)
    (hlen.symm ▸ hleast) (Nat.le_of_eq hlen) (Or.inl hlen)
    (by rw [numberOf_paddedChars]; omega)
  rw [numberOf_paddedChars] at hnumber
  rw [yearChars, if_pos h, hnumber]

theorem number_of_sign {n : Nat} (hfit : n < 2 ^ 31) (rest : List Char) :
    number 1 (paddedChars 4 n ++ '-' :: rest).length (paddedChars 4 n ++ '-' :: rest) =
      .ok (n, '-' :: rest) := by
  have hlen := le_length_paddedChars 4 n
  have hnumber : number 1 (paddedChars 4 n ++ '-' :: rest).length (paddedChars 4 n ++ '-' :: rest) =
      .ok (numberOf (paddedChars 4 n), '-' :: rest) :=
    number_append ('-' :: rest) (isDigit_paddedChars 4 n) (by omega)
      (by rw [List.length_append]; omega) (Or.inr (stopsDigits_cons rfl rest))
      (by rw [numberOf_paddedChars]; omega)
  rw [numberOf_paddedChars] at hnumber
  exact hnumber

/-- A year of any length is read with its sign, up to the hyphen behind it. -/
theorem lenientYear_yearChars {year : Int} (hfit : year.natAbs < 2 ^ 31) (rest : List Char) :
    lenientYear (yearChars year ++ '-' :: rest) = .ok (year, '-' :: rest) := by
  by_cases h : 0 ≤ year ∧ year ≤ 9999
  · have hnumber := number_year h (by decide : 1 ≤ 4) ('-' :: rest)
    have habs : (year.natAbs : Int) = year := Int.natAbs_of_nonneg h.1
    rw [yearChars, if_pos h] at hnumber ⊢
    obtain ⟨c, cs, hc, heq⟩ := exists_cons_paddedChars (by decide : 0 < 4) year.natAbs ('-' :: rest)
    rw [heq] at hnumber ⊢
    unfold lenientYear
    split
    · next hminus =>
      cases hminus
      cases hc
    · next hplus =>
      cases hplus
      cases hc
    · rw [hnumber]
      show Except.ok ((year.natAbs : Int), '-' :: rest) = _
      rw [habs]
  · have hnumber := number_of_sign hfit rest
    rw [yearChars, if_neg h, List.cons_append]
    split
    · next hneg =>
      have habs : -(year.natAbs : Int) = year := by omega
      rw [lenientYear, hnumber]
      show Except.ok (-(year.natAbs : Int), '-' :: rest) = _
      rw [habs]
    · next hpos =>
      have habs : (year.natAbs : Int) = year := by omega
      rw [lenientYear, hnumber]
      show Except.ok ((year.natAbs : Int), '-' :: rest) = _
      rw [habs]

theorem boundedYear_yearChars {year : Int} (hfit : year.natAbs < 2 ^ 31) (rest : List Char) :
    boundedYear (yearChars year ++ '-' :: rest) = .ok (year, '-' :: rest) := by
  have hbounds : -2 ^ 31 ≤ year ∧ year < 2 ^ 31 := by omega
  rw [boundedYear, lenientYear_yearChars hfit]
  exact if_pos hbounds

/-! ## Moments -/

/-- The parts of the text of `t`. -/
def partsOf (t : Timestamp) : Parts :=
  ⟨Date.ofDayNumber t.day, t.second / 3600, t.second / 60 % 60, t.secondAndNano.1,
    t.secondAndNano.2, 0⟩

theorem toList_renderZulu (t : Timestamp) :
    t.renderZulu.toList = yearChars t.partsOf.date.year ++ '-' ::
      (paddedChars 2 t.partsOf.date.month ++ '-' ::
        (paddedChars 2 t.partsOf.date.day ++ 'T' ::
          (paddedChars 2 t.partsOf.hour ++ ':' ::
            (paddedChars 2 t.partsOf.minute ++ ':' ::
              (paddedChars 2 t.partsOf.second ++ (fractionChars t.partsOf.nano ++ ['Z'])))))) := by
  simp only [renderZulu, renderLocal, String.toList_append, toList_renderYear, toList_padded,
    toList_renderFraction, List.append_assoc, partsOf]
  rfl

theorem partsOf_bounds (t : Timestamp) :
    t.partsOf.date.isValid = true ∧ t.partsOf.hour ≤ 23 ∧ t.partsOf.minute ≤ 59 ∧
      t.partsOf.second ≤ 60 ∧ t.partsOf.nano < 1000000000 := by
  have hsecond := t.second_lt
  have hnano := t.nano_lt
  refine ⟨Date.isValid_ofDayNumber t.day, ?_, ?_, ?_, ?_⟩
  · show t.second / 3600 ≤ 23
    omega
  · show t.second / 60 % 60 ≤ 59
    omega
  · show t.secondAndNano.1 ≤ 60
    unfold secondAndNano
    split <;> simp only <;> omega
  · show t.secondAndNano.2 < 1000000000
    unfold secondAndNano
    split <;> simp only <;> omega

/-- A leap second is second 60 of its minute and counts as second 59. -/
theorem secondAndNano_spec (t : Timestamp) :
    min t.secondAndNano.1 59 = t.second % 60 ∧
      (if t.secondAndNano.1 = 60 then t.secondAndNano.2 + 1000000000 else t.secondAndNano.2) =
        t.nano := by
  have hleap := t.leap_ends_minute
  have hmod : t.second % 60 < 60 := Nat.mod_lt _ (by decide)
  unfold secondAndNano
  by_cases hnano : t.nano < 1000000000
  · rw [if_pos hnano]
    simp only
    rw [if_neg (by omega)]
    exact ⟨by omega, rfl⟩
  · rw [if_neg hnano]
    simp only
    rw [if_pos (by omega)]
    exact ⟨by omega, by omega⟩

theorem year_of_isDayInRange {day : Int} (h : isDayInRange day = true) :
    firstYear ≤ (Date.ofDayNumber day).year ∧ (Date.ofDayNumber day).year ≤ lastYear := by
  rw [isDayInRange, Bool.and_eq_true, decide_eq_true_eq, decide_eq_true_eq] at h
  exact ⟨(Date.le_year_ofDayNumber_iff _ _).mpr h.1, (Date.year_ofDayNumber_le_iff _ _).mpr h.2⟩

theorem isDayInRange_of_year {day : Int}
    (h : 0 ≤ (Date.ofDayNumber day).year ∧ (Date.ofDayNumber day).year ≤ 9999) :
    isDayInRange day = true := by
  have hfirst : firstYear ≤ (Date.ofDayNumber day).year := Int.le_trans (by decide) h.1
  have hlast : (Date.ofDayNumber day).year ≤ lastYear := Int.le_trans h.2 (by decide)
  rw [Date.le_year_ofDayNumber_iff] at hfirst
  rw [Date.year_ofDayNumber_le_iff] at hlast
  rw [isDayInRange, Bool.and_eq_true, decide_eq_true_eq, decide_eq_true_eq]
  exact ⟨hfirst, hlast⟩

theorem ofParts?_self (t : Timestamp) : ofParts? t.day t.second t.nano = some t :=
  dif_pos ⟨t.second_lt, t.nano_lt, t.leap_ends_minute⟩

/-- The parts of a moment denote the moment, as long as its year is one that there is. -/
theorem toTimestamp_partsOf {t : Timestamp} (h : isDayInRange t.day = true) :
    t.partsOf.toTimestamp = .ok t := by
  obtain ⟨hfirst, hlast⟩ := year_of_isDayInRange h
  obtain ⟨hsecond, hnano⟩ := t.secondAndNano_spec
  have hlt := t.second_lt
  have hrange : ¬ (¬ t.partsOf.date.isValid = true ∨ t.partsOf.date.year < firstYear ∨
      lastYear < t.partsOf.date.year ∨ 86400 ≤ t.partsOf.offset.natAbs) := by
    rintro (hno | hno | hno | hno)
    · exact hno t.partsOf_bounds.1
    · exact absurd hfirst (Int.not_le.mpr hno)
    · exact absurd hlast (Int.not_le.mpr hno)
    · cases hno
  have hseconds : t.partsOf.date.toDayNumber * 86400 +
      (t.partsOf.hour * 3600 + t.partsOf.minute * 60 + (min t.partsOf.second 59 : Nat)) -
        t.partsOf.offset = t.day * 86400 + t.second := by
    show (Date.ofDayNumber t.day).toDayNumber * 86400 + (((t.second / 3600 : Nat) : Int) * 3600 +
      ((t.second / 60 % 60 : Nat) : Int) * 60 + (min t.secondAndNano.1 59 : Nat)) - 0 = _
    rw [Date.toDayNumber_ofDayNumber, hsecond]
    omega
  have hday : (t.day * 86400 + t.second) / 86400 = t.day := by omega
  have htime : ((t.day * 86400 + t.second) % 86400).toNat = t.second := by omega
  unfold Parts.toTimestamp
  rw [if_neg hrange]
  simp only [hseconds, hday, htime]
  rw [if_neg (by rw [h]; decide)]
  have hparts : (if t.partsOf.second = 60 then t.partsOf.nano + 1000000000 else t.partsOf.nano) =
      t.nano := hnano
  rw [hparts, ofParts?_self]

/-! ## Reading back -/

theorem dropBlanks_cons {c : Char} (h : Text.isBlank c = false) (cs : List Char) :
    Text.dropBlanks (c :: cs) = c :: cs := by
  rw [Text.dropBlanks, List.dropWhile_cons_of_neg]
  rw [h]
  decide

theorem dropBlanks_yearChars (year : Int) (rest : List Char) :
    Text.dropBlanks (yearChars year ++ rest) = yearChars year ++ rest := by
  unfold yearChars
  split
  · exact dropBlanks_paddedChars (by decide) _ _
  · split
    · exact dropBlanks_cons rfl _
    · exact dropBlanks_cons rfl _

theorem lenientField_append {low high n : Nat} (hlow : low ≤ n) (hhigh : n ≤ high) (hn : n < 100)
    (rest : List Char) : lenientField low high (paddedChars 2 n ++ rest) = .ok (n, rest) := by
  rw [lenientField, dropBlanks_paddedChars (by decide), field_append (by decide) hlow hhigh hn]

theorem lenientCharacter_cons {c : Char} (h : Text.isBlank c = false) (cs : List Char) :
    lenientCharacter c (c :: cs) = .ok ((), cs) := by
  rw [lenientCharacter, dropBlanks_cons h, character, if_pos rfl]

theorem dateTimeSeparator_cons (cs : List Char) : dateTimeSeparator ('T' :: cs) = .ok ((), cs) :=
  rfl

theorem character_cons (c : Char) (cs : List Char) : character c (c :: cs) = .ok ((), cs) := by
  rw [character, if_pos rfl]

/-- The lenient form reads back what was written of `t`, if its day is in range. -/
theorem readLenient_renderZulu {t : Timestamp} (h : isDayInRange t.day = true) :
    readLenient t.renderZulu = .ok t := by
  obtain ⟨hvalid, hhour, hminute, hsecond, hnano⟩ := t.partsOf_bounds
  obtain ⟨hmonth1, hmonth12, hday1, hday31⟩ := Date.isValid_bounds hvalid
  obtain ⟨hfirst, hlast⟩ := year_of_isDayInRange h
  have hfit : t.partsOf.date.year.natAbs < 2 ^ 31 := by
    show (Date.ofDayNumber t.day).year.natAbs < 2 ^ 31
    unfold firstYear at hfirst
    unfold lastYear at hlast
    omega
  unfold readLenient
  rw [toList_renderZulu, dropBlanks_yearChars, boundedYear_yearChars hfit]
  simp only [bind, Except.bind, lenientCharacter_cons (c := '-') rfl,
    lenientCharacter_cons (c := ':') rfl, lenientField_append hmonth1 hmonth12 (by omega),
    lenientField_append hday1 hday31 (by omega), dateTimeSeparator_cons,
    lenientField_append (Nat.zero_le _) hhour (by omega),
    lenientField_append (Nat.zero_le _) hminute (by omega),
    lenientField_append (Nat.zero_le _) hsecond (by omega),
    fractionOfSecond_fractionChars hnano]
  exact toTimestamp_partsOf h

/-- The strict form reads back what was written of a moment `t` in a year of four digits. -/
theorem readStrict_renderZulu {t : Timestamp}
    (h : 0 ≤ (Date.ofDayNumber t.day).year ∧ (Date.ofDayNumber t.day).year ≤ 9999) :
    readStrict t.renderZulu = .ok t := by
  obtain ⟨hvalid, hhour, hminute, hsecond, hnano⟩ := t.partsOf_bounds
  obtain ⟨hmonth1, hmonth12, hday1, hday31⟩ := Date.isValid_bounds hvalid
  have hdate : (⟨((Date.ofDayNumber t.day).year.natAbs : Nat), t.partsOf.date.month,
      t.partsOf.date.day⟩ : Date) = t.partsOf.date := by
    rw [Int.natAbs_of_nonneg h.1]
    rfl
  unfold readStrict
  rw [toList_renderZulu, show t.partsOf.date.year = (Date.ofDayNumber t.day).year from rfl]
  simp only [bind, Except.bind, number_year h (Nat.le_refl 4), character_cons,
    field_append (Nat.le_refl 2) hmonth1 hmonth12 (by omega),
    field_append (Nat.le_refl 2) hday1 hday31 (by omega), dateTimeSeparator_cons,
    field_append (Nat.le_refl 2) (Nat.zero_le _) hhour (by omega),
    field_append (Nat.le_refl 2) (Nat.zero_le _) hminute (by omega),
    field_append (Nat.le_refl 2) (Nat.zero_le _) hsecond (by omega),
    fractionOfSecond_fractionChars hnano, hdate]
  exact toTimestamp_partsOf (isDayInRange_of_year h)

/-! ## What can be read -/

theorem day_of_ofParts? {day : Int} {second nano : Nat} {t : Timestamp}
    (h : ofParts? day second nano = some t) : t.day = day := by
  unfold ofParts? at h
  split at h
  · cases h
    rfl
  · cases h

theorem isDayInRange_of_toTimestamp {p : Parts} {t : Timestamp} (h : p.toTimestamp = .ok t) :
    isDayInRange t.day = true := by
  unfold Parts.toTimestamp at h
  split at h
  · cases h
  · dsimp only at h
    split at h
    · cases h
    · next hrange =>
      split at h
      · next t' ht =>
        cases h
        rw [day_of_ofParts? ht]
        exact Decidable.not_not.mp hrange
      · cases h

theorem isDayInRange_of_readLenient {s : String} {t : Timestamp} (h : readLenient s = .ok t) :
    isDayInRange t.day = true := by
  simp only [readLenient, bind_eq_ok_iff, Prod.exists] at h
  obtain ⟨_, _, -, _, _, -, _, _, -, _, _, -, _, _, -, _, _, -, _, _, -, _, _, -, _, _, -, _, _, -,
    _, _, -, _, _, -, _, _, -, h⟩ := h
  split at h
  · cases h
  · exact isDayInRange_of_toTimestamp h

end Quarry.Timestamp
