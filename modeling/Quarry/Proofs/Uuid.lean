import Quarry.EntityId

/-!
# Identifiers and their text

The text of an identifier has the size of the hyphenated form, its hyphens make the five groups that
this form has, and the digits of the groups, joined again, are the 32 hexadecimal digits of the
number. So reading the text gives the identifier back (`Uuid.read_render`). All texts have their
hyphens at the same places and digits ascend with what they stand for, so that identifiers are in the
order of their texts (`Uuid.compare_render`).
-/

namespace Quarry.Uuid

/-! ## Digits -/

theorem hexValue?_hexDigit : ∀ d, d < 16 → hexValue? (hexDigit d) = some d := by decide

theorem hexDigit_ne_hyphen : ∀ d, d < 16 → hexDigit d ≠ '-' := by decide

theorem utf8Size_hexDigit : ∀ d, d < 16 → (hexDigit d).utf8Size = 1 := by decide

theorem mem_hexDigits {count n : Nat} {c : Char} (h : c ∈ hexDigits count n) :
    ∃ d, d < 16 ∧ c = hexDigit d := by
  induction count generalizing n with
  | zero => exact (List.not_mem_nil h).elim
  | succ count ih =>
    rcases List.mem_append.mp h with h | h
    · exact ih h
    · exact ⟨n % 16, Nat.mod_lt _ (by decide), List.mem_singleton.mp h⟩

theorem length_hexDigits (count n : Nat) : (hexDigits count n).length = count := by
  induction count generalizing n with
  | zero => rfl
  | succ count ih => rw [hexDigits, List.length_append, ih, List.length_singleton]

/-- The digits of a number `n` are those of its front part and those of its back part. -/
theorem hexDigits_add (front back n : Nat) :
    hexDigits (front + back) n = hexDigits front (n / 16 ^ back) ++ hexDigits back n := by
  induction back generalizing n with
  | zero => rw [Nat.add_zero, Nat.pow_zero, Nat.div_one, hexDigits, List.append_nil]
  | succ back ih =>
    rw [← Nat.add_assoc, hexDigits, ih, hexDigits, List.append_assoc, Nat.div_div_eq_div_mul,
      Nat.pow_succ']

/-- Reading digits goes on from the number `start` that was read before. -/
theorem foldlM_hexDigits (count n start : Nat) :
    (hexDigits count n).foldlM (fun n c => (hexValue? c).map (16 * n + ·)) start =
      some (start * 16 ^ count + n % 16 ^ count) := by
  induction count generalizing n with
  | zero => rw [hexDigits, Nat.pow_zero, Nat.mul_one, Nat.mod_one]; rfl
  | succ count ih =>
    have hdigit := hexValue?_hexDigit (n % 16) (Nat.mod_lt _ (by decide))
    have hmod : n % 16 ^ (count + 1) = n % 16 + 16 * (n / 16 % 16 ^ count) := by
      rw [Nat.pow_succ', Nat.mod_mul]
    rw [hexDigits, List.foldlM_append, ih]
    show (hexValue? (hexDigit (n % 16))).map _ >>= pure = _
    rw [hdigit, hmod, Nat.pow_succ']
    show some (16 * (start * 16 ^ count + n / 16 % 16 ^ count) + n % 16) = _
    rw [Nat.mul_left_comm]
    congr 1
    omega

theorem ofDigits?_hexDigits (u : Uuid) : ofDigits? (hexDigits 32 u.toNat) = some u := by
  have hlt : u.toNat < 16 ^ 32 := by
    have h := u.toNat_lt
    omega
  have hnumber : hexNumber? (hexDigits 32 u.toNat) = some u.toNat := by
    rw [hexNumber?, foldlM_hexDigits, Nat.zero_mul, Nat.zero_add, Nat.mod_eq_of_lt hlt]
  rw [ofDigits?, if_pos (length_hexDigits 32 u.toNat), hnumber]
  exact dif_pos u.toNat_lt

/-! ## Groups -/

theorem groups_eq_cons (cs : List Char) : ∃ g gs, groups cs = g :: gs := by
  cases cs with
  | nil => exact ⟨[], [], rfl⟩
  | cons c cs =>
    rw [groups]
    split
    · exact ⟨_, _, rfl⟩
    · split
      · exact ⟨_, _, rfl⟩
      · exact ⟨_, _, rfl⟩

/-- A group `g` ends at the first hyphen. -/
theorem groups_append {g : List Char} (hg : ∀ c ∈ g, c ≠ '-') (cs : List Char) :
    groups (g ++ '-' :: cs) = g :: groups cs := by
  induction g with
  | nil =>
    obtain ⟨h, hs, hcs⟩ := groups_eq_cons cs
    rw [List.nil_append, groups, hcs]
    rfl
  | cons c g ih =>
    rw [List.forall_mem_cons] at hg
    rw [List.cons_append, groups, ih hg.2]
    exact if_neg hg.1

theorem groups_of_no_hyphen {g : List Char} (hg : ∀ c ∈ g, c ≠ '-') : groups g = [g] := by
  induction g with
  | nil => rfl
  | cons c g ih =>
    rw [List.forall_mem_cons] at hg
    rw [groups, ih hg.2]
    exact if_neg hg.1

theorem hexDigits_no_hyphen (count n : Nat) : ∀ c ∈ hexDigits count n, c ≠ '-' := by
  intro c hc
  obtain ⟨d, hd, rfl⟩ := mem_hexDigits hc
  exact hexDigit_ne_hyphen d hd

/-- The groups of an identifier have eight, four, four, four and twelve digits. -/
theorem groups_toChars (u : Uuid) :
    groups u.toChars = [hexDigits 8 (u.toNat / 2 ^ 96), hexDigits 4 (u.toNat / 2 ^ 80),
      hexDigits 4 (u.toNat / 2 ^ 64), hexDigits 4 (u.toNat / 2 ^ 48), hexDigits 12 u.toNat] := by
  unfold toChars
  simp only [List.append_assoc, List.cons_append]
  rw [groups_append (hexDigits_no_hyphen _ _), groups_append (hexDigits_no_hyphen _ _),
    groups_append (hexDigits_no_hyphen _ _), groups_append (hexDigits_no_hyphen _ _),
    groups_of_no_hyphen (hexDigits_no_hyphen _ _)]

theorem flatten_groups_toChars (u : Uuid) :
    (groups u.toChars).flatten = hexDigits 32 u.toNat := by
  have h12 := hexDigits_add 20 12 u.toNat
  have h16 := hexDigits_add 16 4 (u.toNat / 2 ^ 48)
  have h20 := hexDigits_add 12 4 (u.toNat / 2 ^ 64)
  have h24 := hexDigits_add 8 4 (u.toNat / 2 ^ 80)
  rw [show (16 : Nat) ^ 12 = 2 ^ 48 by decide] at h12
  rw [Nat.div_div_eq_div_mul, show (2 : Nat) ^ 48 * 16 ^ 4 = 2 ^ 64 by decide] at h16
  rw [Nat.div_div_eq_div_mul, show (2 : Nat) ^ 64 * 16 ^ 4 = 2 ^ 80 by decide] at h20
  rw [Nat.div_div_eq_div_mul, show (2 : Nat) ^ 80 * 16 ^ 4 = 2 ^ 96 by decide] at h24
  rw [groups_toChars]
  simp only [List.flatten_cons, List.flatten_nil, List.append_nil]
  rw [h12, h16, h20, h24]
  simp only [List.append_assoc]

/-! ## Text -/

theorem byteSize_eq_length {cs : List Char} (hcs : ∀ c ∈ cs, c.utf8Size = 1) :
    byteSize cs = cs.length := by
  unfold byteSize
  induction cs with
  | nil => rfl
  | cons c cs ih =>
    rw [List.forall_mem_cons] at hcs
    rw [String.ofList_cons, String.utf8ByteSize_append, String.utf8ByteSize_singleton, hcs.1, ih hcs.2,
      List.length_cons, Nat.add_comm]

theorem byteSize_toChars (u : Uuid) : byteSize u.toChars = hyphenatedSize := by
  have hdigits (count n : Nat) : ∀ c ∈ hexDigits count n, c.utf8Size = 1 := by
    intro c hc
    obtain ⟨d, hd, rfl⟩ := mem_hexDigits hc
    exact utf8Size_hexDigit d hd
  have hhyphen : '-'.utf8Size = 1 := rfl
  rw [byteSize_eq_length]
  · simp only [toChars, List.length_append, List.length_cons, length_hexDigits]
    rfl
  · simp only [toChars, List.forall_mem_append, List.forall_mem_cons]
    exact ⟨⟨⟨⟨hdigits _ _, hhyphen, hdigits _ _⟩, hhyphen, hdigits _ _⟩, hhyphen, hdigits _ _⟩,
      hhyphen, hdigits _ _⟩

/-- The text of an identifier is one of the forms that can be read. -/
theorem ofChars?_toChars (u : Uuid) : ofChars? u.toChars = some u := by
  have hsizes : (groups u.toChars).map List.length = groupSizes := by
    rw [groups_toChars]
    simp only [List.map_cons, List.map_nil, length_hexDigits]
    rfl
  rw [ofChars?, hyphenated?, if_pos (byteSize_toChars u)]
  show ofGroups? u.toChars = some u
  rw [ofGroups?, if_pos hsizes, flatten_groups_toChars, ofDigits?_hexDigits]

/-- Reading the text of an identifier gives the identifier back. -/
theorem read_render (u : Uuid) : read u.render = .ok u := by
  rw [read, render, String.toList_ofList, ofChars?_toChars]

/-! ## Order -/

theorem hexDigit_lt_iff : ∀ a, a < 16 → ∀ b, b < 16 → (hexDigit a < hexDigit b ↔ a < b) := by
  decide

/-- Lists that start with equally many items `a` and `a'` are in the order of these, and if these
are the same in the order of the others. -/
theorem append_lt_append_iff {a a' b b' : List Char} (hlen : a.length = a'.length) :
    a ++ b < a' ++ b' ↔ a < a' ∨ a = a' ∧ b < b' := by
  induction a generalizing a' with
  | nil =>
    have ha' : a' = [] := List.length_eq_zero_iff.mp hlen.symm
    simp [ha']
  | cons c a ih =>
    obtain ⟨c', a', rfl⟩ := List.exists_cons_of_length_eq_add_one hlen.symm
    have htail := ih (Nat.succ.inj hlen)
    rw [List.cons_append, List.cons_append, List.cons_lt_cons_iff, List.cons_lt_cons_iff, htail,
      List.cons.injEq]
    by_cases hc : c = c'
    · simp [hc]
    · simp [hc]

theorem mod_pow_succ (count n : Nat) :
    n % 16 ^ (count + 1) = n % 16 + 16 * (n / 16 % 16 ^ count) := by
  rw [Nat.pow_succ', Nat.mod_mul]

theorem hexDigits_inj {count m n : Nat} :
    hexDigits count m = hexDigits count n ↔ m % 16 ^ count = n % 16 ^ count := by
  constructor
  · intro h
    have hm := foldlM_hexDigits count m 0
    have hn := foldlM_hexDigits count n 0
    rw [h, hn] at hm
    have heq := Option.some.inj hm
    omega
  · intro h
    induction count generalizing m n with
    | zero => rfl
    | succ count ih =>
      rw [mod_pow_succ, mod_pow_succ] at h
      have hlast : m % 16 = n % 16 := by omega
      have hfront : m / 16 % 16 ^ count = n / 16 % 16 ^ count := by omega
      rw [hexDigits, hexDigits, ih hfront, hlast]

theorem hexDigits_lt_iff {count m n : Nat} :
    hexDigits count m < hexDigits count n ↔ m % 16 ^ count < n % 16 ^ count := by
  induction count generalizing m n with
  | zero => simp [hexDigits, Nat.mod_one]
  | succ count ih =>
    have hlen : (hexDigits count (m / 16)).length = (hexDigits count (n / 16)).length := by
      rw [length_hexDigits, length_hexDigits]
    have hlast : [hexDigit (m % 16)] < [hexDigit (n % 16)] ↔ m % 16 < n % 16 := by
      have hdigit := hexDigit_lt_iff (m % 16) (Nat.mod_lt _ (by decide)) (n % 16)
        (Nat.mod_lt _ (by decide))
      rw [List.cons_lt_cons_iff, hdigit]
      simp
    rw [hexDigits, hexDigits, append_lt_append_iff hlen, ih, hexDigits_inj, hlast, mod_pow_succ,
      mod_pow_succ]
    omega

theorem toChars_lt_iff {u v : Uuid} :
    u.toChars < v.toChars ↔ hexDigits 32 u.toNat < hexDigits 32 v.toNat := by
  have hlen (count m n : Nat) : (hexDigits count m).length = (hexDigits count n).length := by
    rw [length_hexDigits, length_hexDigits]
  have hhyphen (a b : List Char) : '-' :: a < '-' :: b ↔ a < b := by
    simp
  rw [← flatten_groups_toChars, ← flatten_groups_toChars, groups_toChars, groups_toChars]
  simp only [toChars, List.flatten_cons, List.flatten_nil, List.append_nil, List.append_assoc,
    List.cons_append, append_lt_append_iff (hlen _ _ _), hhyphen]

theorem toChars_lt_toChars_iff {u v : Uuid} : u.toChars < v.toChars ↔ u.toNat < v.toNat := by
  have hu := u.toNat_lt
  have hv := v.toNat_lt
  rw [toChars_lt_iff, hexDigits_lt_iff, Nat.mod_eq_of_lt (by omega), Nat.mod_eq_of_lt (by omega)]

theorem render_lt_render_iff {u v : Uuid} : u.render < v.render ↔ u.toNat < v.toNat := by
  rw [String.lt_iff, render, render, String.toList_ofList, String.toList_ofList,
    toChars_lt_toChars_iff]

theorem render_inj {u v : Uuid} (h : u.render = v.render) : u = v := by
  have hread := read_render u
  rw [h, read_render] at hread
  exact (Except.ok.inj hread).symm

theorem compare_text_eq_lt_iff {s t : String} : compare s t = .lt ↔ s < t :=
  compareOfLessAndEq_eq_lt

/-- Identifiers are in the order of their texts. -/
theorem compare_render (u v : Uuid) : compare u.render v.render = compare u v := by
  rcases Nat.lt_trichotomy u.toNat v.toNat with hlt | heq | hgt
  · have htext : compare u.render v.render = .lt :=
      compare_text_eq_lt_iff.mpr (render_lt_render_iff.mpr hlt)
    have hnumber : compare u v = .lt := Nat.compare_eq_lt.mpr hlt
    rw [htext, hnumber]
  · have hnumber : compare u v = .eq := Nat.compare_eq_eq.mpr heq
    have huv : u = v := Std.LawfulEqCmp.eq_of_compare hnumber
    have htext : compare u.render v.render = .eq :=
      Std.LawfulEqCmp.compare_eq_iff_eq.mpr (congrArg render huv)
    rw [htext, hnumber]
  · have htext : compare v.render u.render = .lt :=
      compare_text_eq_lt_iff.mpr (render_lt_render_iff.mpr hgt)
    have hnumber : compare v u = .lt := Nat.compare_eq_lt.mpr hgt
    rw [Std.OrientedCmp.gt_of_lt htext, Std.OrientedCmp.gt_of_lt hnumber]

end Quarry.Uuid

namespace Quarry.EntityId

theorem read_render (id : EntityId) : read id.render = .ok id := by
  rw [read, render, Uuid.read_render]

theorem render_inj {a b : EntityId} (h : a.render = b.render) : a = b :=
  congrArg mk (Uuid.render_inj h)

theorem compare_render (a b : EntityId) : compare a.render b.render = compare a b :=
  Uuid.compare_render a.uuid b.uuid

end Quarry.EntityId
