import Quarry.Config
import Quarry.Proofs.Json.Decode

/-!
# Page arithmetic in 64 bits

The rows of a page start at the product of its index and its size, and that product is not checked
when the rows are asked for. It need not be: there is a page just if the product fits in 64 bits
(`Page.ofInts_eq_ok_iff`, `Page.decode_eq_ok_iff`), and the next page is only given if its own
product fits as well. So for every page that can be come by, however many pages it is behind the
first one, 64-bit words that wrap around give the exact rows (`Page.IsObtained.countsExactly`).
-/

namespace Quarry

/-! ## Arithmetic of 64 bits -/

/-- The sum of `a` and `b`, if it fits. -/
def checkedAdd (a b : UInt64) : Option UInt64 :=
  if a.toNat + b.toNat < 2 ^ 64 then some (a + b) else none

/-- The product of `a` and `b`, if it fits. -/
def checkedMul (a b : UInt64) : Option UInt64 :=
  if a.toNat * b.toNat < 2 ^ 64 then some (a * b) else none

theorem toNat_mul_of_lt {a b : UInt64} (h : a.toNat * b.toNat < 2 ^ 64) :
    (a * b).toNat = a.toNat * b.toNat := by
  rw [UInt64.toNat_mul, Nat.mod_eq_of_lt h]

theorem checkedAdd_eq_some_iff {a b c : UInt64} :
    checkedAdd a b = some c ↔ c.toNat = a.toNat + b.toNat := by
  have hc := c.toNat_lt
  rw [checkedAdd]
  split
  · next h =>
    rw [Option.some_inj, ← UInt64.toNat_inj, UInt64.toNat_add, Nat.mod_eq_of_lt h, eq_comm]
  · next h => exact iff_of_false nofun (by omega)

theorem checkedMul_eq_some_iff {a b c : UInt64} :
    checkedMul a b = some c ↔ c.toNat = a.toNat * b.toNat := by
  have hc := c.toNat_lt
  rw [checkedMul]
  split
  · next h => rw [Option.some_inj, ← UInt64.toNat_inj, toNat_mul_of_lt h, eq_comm]
  · next h => exact iff_of_false nofun (by omega)

namespace Page

variable {p q : Page}

/-! ## Which pages there are -/

theorem checked_eq_ok_iff {index size : Nat} :
    checked index size = .ok p ↔ p.index = index ∧ p.size = size := by
  rw [checked]
  constructor
  · intro h
    split at h
    · split at h
      · cases h
        exact ⟨rfl, rfl⟩
      · cases h
    · cases h
  · rintro ⟨rfl, rfl⟩
    rw [dif_pos p.size_pos, dif_pos p.skip_lt]

/-- The page that a caller asks for has the numbers that the caller gives. -/
theorem ofInts_eq_ok_iff {index size : Int64} :
    ofInts index size = .ok p ↔ (p.index : Int) = index.toInt ∧ (p.size : Int) = size.toInt := by
  have hsize := p.size_pos
  rw [ofInts]
  split
  · exact iff_of_false nofun (by omega)
  split
  · exact iff_of_false nofun (by omega)
  · rw [checked_eq_ok_iff]
    omega

/-- There is a page of `index` and `size` just if the size is positive and the product fits in 64
bits. -/
theorem exists_ofInts_iff (index size : Int64) :
    (∃ p, ofInts index size = .ok p) ↔
      0 ≤ index.toInt ∧ 0 < size.toInt ∧ index.toInt * size.toInt < 2 ^ 64 := by
  constructor
  · rintro ⟨p, hp⟩
    obtain ⟨hindex, hsize⟩ := ofInts_eq_ok_iff.mp hp
    have hpos := p.size_pos
    have hskip : ((p.index * p.size : Nat) : Int) < 2 ^ 64 := by
      exact_mod_cast p.skip_lt
    rw [← hindex, ← hsize, ← Int.natCast_mul]
    exact ⟨by omega, by omega, hskip⟩
  · rintro ⟨hindex, hsize, hskip⟩
    obtain ⟨i, hi⟩ := Int.eq_ofNat_of_zero_le hindex
    obtain ⟨s, hs⟩ := Int.eq_ofNat_of_zero_le (Int.le_of_lt hsize)
    rw [hi, hs, ← Int.natCast_mul] at hskip
    have hpos : 0 < s := by omega
    exact ⟨⟨i, s, hpos, by exact_mod_cast hskip⟩, ofInts_eq_ok_iff.mpr ⟨hi.symm, hs.symm⟩⟩

/-- What a stored page holds as its index and as its size: the members of these names, or the items
of a pair. -/
def storedNumbers? : Json → Option (Json × Json)
  | .object members =>
    match Json.member? "index" members, Json.member? "size" members with
    | some index, some size => some (index, size)
    | _, _ => none
  | .array [index, size] => some (index, size)
  | _ => none

theorem ofStored_eq_ok_iff {index size : Nat} :
    ofStored index size = .ok p ↔ p.index = index ∧ p.size = size :=
  mapError_eq_ok_iff.trans checked_eq_ok_iff

theorem ofMembers_eq_ok_iff {members : List (String × Json)} :
    ofMembers members = .ok p ↔
      ∃ index size, storedNumbers? (.object members) = some (index, size) ∧
        Json.decodeNat 64 index = .ok p.index ∧ Json.decodeNat 64 size = .ok p.size := by
  simp only [ofMembers, bind_eq_ok_iff, Json.requireField_eq_ok_iff, ofStored_eq_ok_iff]
  constructor
  · rintro ⟨_, hindex, _, hsize, _, rfl, _, rfl, rfl, rfl⟩
    obtain ⟨index, hmember, hindex⟩ := Json.decodeMember_eq_some_iff.mp hindex
    obtain ⟨size, hmember', hsize⟩ := Json.decodeMember_eq_some_iff.mp hsize
    refine ⟨index, size, ?_, hindex, hsize⟩
    simp only [storedNumbers?, hmember, hmember']
  · rintro ⟨index, size, hstored, hindex, hsize⟩
    rw [storedNumbers?] at hstored
    split at hstored
    · next hmember hmember' =>
      cases hstored
      exact ⟨_, Json.decodeMember_of_ok hmember hindex, _, Json.decodeMember_of_ok hmember' hsize,
        _, rfl, _, rfl, rfl, rfl⟩
    · cases hstored

theorem ofItems_eq_ok_iff {items : List Json} :
    ofItems items = .ok p ↔
      ∃ index size, storedNumbers? (.array items) = some (index, size) ∧
        Json.decodeNat 64 index = .ok p.index ∧ Json.decodeNat 64 size = .ok p.size := by
  simp only [ofItems, bind_eq_ok_iff, Json.decodeItem_eq_ok_iff, Json.requireNoMore_eq_ok_iff,
    ofStored_eq_ok_iff]
  constructor
  · rintro ⟨_, ⟨index, hfirst, hindex⟩, _, ⟨size, hsecond, hsize⟩, _, hlength, rfl, rfl⟩
    match items with
    | [] => cases hfirst
    | [_] => cases hsecond
    | [_, _] =>
      cases hfirst
      cases hsecond
      exact ⟨index, size, rfl, hindex, hsize⟩
    | _ :: _ :: _ :: rest => simp at hlength
  · rintro ⟨index, size, hstored, hindex, hsize⟩
    match items with
    | [_, _] =>
      cases hstored
      exact ⟨_, ⟨index, rfl, hindex⟩, _, ⟨size, rfl, hsize⟩, (), Nat.le_refl 2, rfl, rfl⟩
    | [] | [_] | _ :: _ :: _ :: _ => cases hstored

/-- The page that is read of `j` has the numbers that are stored. -/
theorem decode_eq_ok_iff {j : Json} :
    decode j = .ok p ↔ ∃ index size : UInt64,
      storedNumbers? j = some (.ofUInt64 index, .ofUInt64 size) ∧
        p.index = index.toNat ∧ p.size = size.toNat := by
  have hparts : decode j = .ok p ↔ ∃ index size, storedNumbers? j = some (index, size) ∧
      Json.decodeNat 64 index = .ok p.index ∧ Json.decodeNat 64 size = .ok p.size := by
    cases j with
    | object members => exact ofMembers_eq_ok_iff
    | array items => exact ofItems_eq_ok_iff
    | null | bool _ | number _ | string _ => exact iff_of_false nofun (by simp [storedNumbers?])
  rw [hparts]
  constructor
  · rintro ⟨_, _, hstored, hindex, hsize⟩
    obtain ⟨index, rfl, hi⟩ := Json.decodeNat_eq_ok_iff.mp hindex
    obtain ⟨size, rfl, hs⟩ := Json.decodeNat_eq_ok_iff.mp hsize
    exact ⟨index, size, hstored, hi.symm, hs.symm⟩
  · rintro ⟨index, size, hstored, hindex, hsize⟩
    exact ⟨_, _, hstored, Json.decodeNat_eq_ok_iff.mpr ⟨index, rfl, hindex.symm⟩,
      Json.decodeNat_eq_ok_iff.mpr ⟨size, rfl, hsize.symm⟩⟩

/-- A page is read of `j` just if its numbers are stored there and make a page. -/
theorem exists_decode_iff (j : Json) :
    (∃ p, decode j = .ok p) ↔ ∃ index size : UInt64,
      storedNumbers? j = some (.ofUInt64 index, .ofUInt64 size) ∧
        0 < size.toNat ∧ index.toNat * size.toNat < 2 ^ 64 := by
  constructor
  · rintro ⟨p, hp⟩
    obtain ⟨index, size, hstored, hindex, hsize⟩ := decode_eq_ok_iff.mp hp
    exact ⟨index, size, hstored, hsize ▸ p.size_pos, hindex ▸ hsize ▸ p.skip_lt⟩
  · rintro ⟨index, size, hstored, hpos, hskip⟩
    exact ⟨⟨index.toNat, size.toNat, hpos, hskip⟩,
      decode_eq_ok_iff.mpr ⟨index, size, hstored, rfl, rfl⟩⟩

/-! ## The page after a page -/

theorem index_lt (p : Page) : p.index < 2 ^ 64 :=
  Nat.lt_of_le_of_lt (Nat.le_mul_of_pos_right p.index p.size_pos) p.skip_lt

/-- There is a next page just if the number of items before it fits in 64 bits. -/
theorem next?_eq_some_iff :
    p.next? = some q ↔
      (p.index + 1) * p.size < 2 ^ 64 ∧ q.index = p.index + 1 ∧ q.size = p.size := by
  rw [next?]
  split
  · next h =>
    rw [Option.some_inj]
    constructor
    · rintro rfl
      exact ⟨h.2, rfl, rfl⟩
    · rintro ⟨-, hindex, hsize⟩
      cases q
      cases hindex
      cases hsize
      rfl
  · next h =>
    have hindex : p.index + 1 ≤ (p.index + 1) * p.size := Nat.le_mul_of_pos_right _ p.size_pos
    exact iff_of_false nofun (by omega)

theorem next?_eq_none_iff : p.next? = none ↔ 2 ^ 64 ≤ (p.index + 1) * p.size := by
  rw [Option.eq_none_iff_forall_ne_some, ← Nat.not_lt]
  constructor
  · intro h hskip
    exact h ⟨p.index + 1, p.size, p.size_pos, hskip⟩ (next?_eq_some_iff.mpr ⟨hskip, rfl, rfl⟩)
  · intro h q hq
    exact h (next?_eq_some_iff.mp hq).1

example : next? ⟨2 ^ 64 - 1, 1, by decide, by decide⟩ = none := by decide

theorem skip_of_next? (h : p.next? = some q) : q.range.skip = p.range.skip + p.range.take := by
  obtain ⟨-, hindex, hsize⟩ := next?_eq_some_iff.mp h
  calc q.range.skip
    _ = (p.index + 1) * p.size := by rw [range, hindex, hsize]
    _ = p.range.skip + p.range.take := Nat.succ_mul p.index p.size

/-! ## How pages come about -/

/-- The pages that can be come by: a caller asks for them, they are stored or configured, or they
come after such a page. -/
inductive IsObtained : Page → Prop where
  | asked {p : Page} {index size : Int64} (h : ofInts index size = .ok p) : IsObtained p
  | first {p : Page} {size : Int64} (h : first size = .ok p) : IsObtained p
  | stored {p : Page} {j : Json} (h : decode j = .ok p) : IsObtained p
  | configured {p : Page} {c : Config} {index size : Option Int64} (h : c.page index size = .ok p) :
    IsObtained p
  | next {p q : Page} (hp : IsObtained p) (h : p.next? = some q) : IsObtained q

theorem size_lt_of_ofInts {index size : Int64} (h : ofInts index size = .ok p) :
    p.size < 2 ^ 64 := by
  have hsize := (ofInts_eq_ok_iff.mp h).2
  have hlt := size.toInt_lt
  omega

/-- No page has a size of more than 64 bits, which the bound on the rows before it does not say of
the first page. -/
theorem IsObtained.size_lt (h : p.IsObtained) : p.size < 2 ^ 64 := by
  induction h with
  | asked h => exact size_lt_of_ofInts h
  | first h => exact size_lt_of_ofInts h
  | configured h => exact size_lt_of_ofInts h
  | stored h =>
    obtain ⟨_, size, -, -, hsize⟩ := decode_eq_ok_iff.mp h
    exact hsize ▸ size.toNat_lt
  | next _ h ih =>
    exact (next?_eq_some_iff.mp h).2.2 ▸ ih

/-! ## Pages in words -/

/-- The two numbers of a page as 64-bit words. -/
@[ext]
structure Words where
  index : UInt64
  size : UInt64

/-- The numbers of `p` as 64-bit words. -/
def words (p : Page) : Words :=
  ⟨UInt64.ofNat p.index, UInt64.ofNat p.size⟩

namespace Words

/-- The number of rows before the page; the product may wrap around. -/
def skip (w : Words) : UInt64 :=
  w.index * w.size

/-- The page after this one, unless its index or the number of rows before it overflows. -/
def next? (w : Words) : Option Words := do
  let index ← checkedAdd w.index 1
  let _ ← checkedMul index w.size
  pure ⟨index, w.size⟩

theorem next?_eq_some_iff {w next : Words} :
    w.next? = some next ↔ next.index.toNat = w.index.toNat + 1 ∧ next.size = w.size ∧
      next.index.toNat * next.size.toNat < 2 ^ 64 := by
  simp only [next?, bind, pure, Option.bind_eq_some_iff, checkedAdd_eq_some_iff,
    checkedMul_eq_some_iff, Option.some_inj]
  constructor
  · rintro ⟨index, hindex, skip, hskip, rfl⟩
    exact ⟨hindex, rfl, hskip ▸ skip.toNat_lt⟩
  · rintro ⟨hindex, hsize, hskip⟩
    rw [hsize] at hskip
    have hprod := toNat_mul_of_lt hskip
    exact ⟨next.index, hindex, next.index * w.size, hprod, Words.ext rfl hsize.symm⟩

end Words

theorem words_eq_iff (h : p.size < 2 ^ 64) {w : Words} :
    p.words = w ↔ w.index.toNat = p.index ∧ w.size.toNat = p.size := by
  have hindex : (UInt64.ofNat p.index).toNat = p.index := UInt64.toNat_ofNat_of_lt p.index_lt
  have hsize : (UInt64.ofNat p.size).toNat = p.size := UInt64.toNat_ofNat_of_lt h
  rw [words, Words.ext_iff, ← UInt64.toNat_inj, ← UInt64.toNat_inj, hindex, hsize,
    eq_comm, @eq_comm _ p.size]

/-- Among words the next page is what it is among numbers, if the size fits. -/
theorem next?_words (h : p.size < 2 ^ 64) : p.words.next? = p.next?.map words := by
  obtain ⟨hindex, hsize⟩ := (words_eq_iff h).mp rfl
  ext w
  rw [Words.next?_eq_some_iff, Option.map_eq_some_iff, hindex]
  constructor
  · rintro ⟨hi, hs, hskip⟩
    rw [hi, hs, hsize] at hskip
    have hsome : p.next? ≠ none := by
      rw [Ne, next?_eq_none_iff]
      omega
    obtain ⟨q, hq⟩ := Option.ne_none_iff_exists'.mp hsome
    obtain ⟨-, hi', hs'⟩ := next?_eq_some_iff.mp hq
    exact ⟨q, hq, (words_eq_iff (hs' ▸ h)).mpr ⟨hi.trans hi'.symm, by rw [hs, hsize, hs']⟩⟩
  · rintro ⟨q, hq, rfl⟩
    obtain ⟨hskip, hi, hs⟩ := next?_eq_some_iff.mp hq
    obtain ⟨hi', hs'⟩ := (words_eq_iff (hs ▸ h)).mp (rfl : q.words = q.words)
    rw [hi', hs', hi, hs]
    exact ⟨rfl, UInt64.toNat_inj.mp (by rw [hs', hs, hsize]), hskip⟩

/-- The rows of `p` are what they are among all natural numbers, words of 64 bits give them, and the
next page starts where they end. -/
structure CountsExactly (p : Page) : Prop where
  index_words : p.words.index.toNat = p.index
  size_words : p.words.size.toNat = p.size
  skip : p.range.skip = p.index * p.size
  skip_words : p.words.skip.toNat = p.range.skip
  take : p.range.take = p.size
  take_pos : 1 ≤ p.range.take
  last : p.next? = none ↔ 2 ^ 64 ≤ (p.index + 1) * p.size
  next : ∀ q, p.next? = some q →
    q.index = p.index + 1 ∧ q.size = p.size ∧ q.range.skip = p.range.skip + p.range.take
  next_words : p.words.next? = p.next?.map words

/-- A page that can be come by counts its rows exactly. -/
theorem IsObtained.countsExactly (h : p.IsObtained) : p.CountsExactly := by
  obtain ⟨hindex, hsize⟩ := (words_eq_iff h.size_lt).mp rfl
  have hfits : p.words.index.toNat * p.words.size.toNat < 2 ^ 64 := by
    rw [hindex, hsize]
    exact p.skip_lt
  refine ⟨hindex, hsize, rfl, ?_, rfl, p.size_pos, next?_eq_none_iff, ?_, next?_words h.size_lt⟩
  · rw [Words.skip, toNat_mul_of_lt hfits, hindex, hsize, range]
  · intro q hq
    obtain ⟨-, hnext⟩ := next?_eq_some_iff.mp hq
    exact ⟨hnext.1, hnext.2, skip_of_next? hq⟩

/-- There is a page of `index` and `size` just if the size is positive and the product fits in 64
bits, be it asked for or stored as `j`. It has these numbers, and whatever pages are come by from
there on, their rows are counted exactly. -/
theorem arithmetic_isExact :
    (∀ index size : Int64,
      ((∃ p, ofInts index size = .ok p) ↔
        0 ≤ index.toInt ∧ 0 < size.toInt ∧ index.toInt * size.toInt < 2 ^ 64) ∧
      ∀ p, ofInts index size = .ok p →
        (p.index : Int) = index.toInt ∧ (p.size : Int) = size.toInt) ∧
    (∀ j : Json,
      ((∃ p, decode j = .ok p) ↔ ∃ index size : UInt64,
        storedNumbers? j = some (.ofUInt64 index, .ofUInt64 size) ∧
          0 < size.toNat ∧ index.toNat * size.toNat < 2 ^ 64) ∧
      ∀ p, decode j = .ok p →
        storedNumbers? j = some (.ofUInt64 p.words.index, .ofUInt64 p.words.size)) ∧
    ∀ p, IsObtained p → p.CountsExactly := by
  refine ⟨?_, ?_, fun p => IsObtained.countsExactly⟩
  · intro index size
    exact ⟨exists_ofInts_iff index size, fun p => ofInts_eq_ok_iff.mp⟩
  · intro j
    refine ⟨exists_decode_iff j, ?_⟩
    intro p hp
    obtain ⟨index, size, hstored, hindex, hsize⟩ := decode_eq_ok_iff.mp hp
    have hwords : p.words = ⟨index, size⟩ :=
      (words_eq_iff (IsObtained.stored hp).size_lt).mpr ⟨hindex.symm, hsize.symm⟩
    rw [hstored, hwords]

/-- The largest page there is has a next one, and no page comes after that. -/
theorem arithmetic_isExact_largest :
    ∃ p q, decode (.array [.ofUInt64 0, .ofUInt64 18446744073709551615]) = .ok p ∧
      p.next? = some q ∧ q.words.skip.toNat = 18446744073709551615 ∧ q.next? = none := by
  let p : Page := ⟨0, 18446744073709551615, by decide, by decide⟩
  let q : Page := ⟨1, 18446744073709551615, by decide, by decide⟩
  have hp : decode (.array [.ofUInt64 0, .ofUInt64 18446744073709551615]) = .ok p :=
    decode_eq_ok_iff.mpr ⟨0, 18446744073709551615, rfl, rfl, rfl⟩
  have hq : p.next? = some q := next?_eq_some_iff.mpr ⟨by decide, rfl, rfl⟩
  have hcounts : q.CountsExactly := arithmetic_isExact.2.2 q (.next (.stored hp) hq)
  have hskip : q.range.skip = 18446744073709551615 := by decide
  exact ⟨p, q, hp, hq, hcounts.skip_words.trans hskip, hcounts.last.mpr (by decide)⟩

end Page

end Quarry
