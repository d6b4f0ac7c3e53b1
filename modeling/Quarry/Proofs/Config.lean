import Quarry.Proofs.Page

/-!
# Settings that were read

Each setting is any text or none, and only some texts are accepted. A number that is accepted fits
in its word and is positive, so the bounds on pages are what they are said to be once the two sizes
have been compared. That is all that a page needs: whatever a caller asks for, the page is refused
for the caller's own numbers only, and no page is larger than the largest one
(`Config.pages_areBounded`).
-/

namespace Quarry

/-! ## Numbers in text -/

namespace Text

theorem readDigits_lt {bits n m : Nat} {cs : List Char} (hn : n < 2 ^ bits)
    (h : readDigits bits n cs = .ok m) : m < 2 ^ bits := by
  induction cs generalizing n with
  | nil =>
    cases h
    exact hn
  | cons c cs ih =>
    simp only [readDigits] at h
    split at h
    · cases h
    · split at h
      · next hnext => exact ih hnext h
      · cases h

/-- A number that is read fits into its `bits`. -/
theorem readUnsigned_lt {bits n : Nat} {s : String} (h : readUnsigned bits s = .ok n) :
    n < 2 ^ bits := by
  have hzero : 0 < 2 ^ bits := Nat.two_pow_pos bits
  simp only [readUnsigned] at h
  split at h
  · cases h
  · cases h
  · exact readDigits_lt hzero h
  · exact readDigits_lt hzero h

end Text

namespace Config

variable {vars : Variables} {c : Config}

/-! ## Reading -/

/-- A number `n` that is accepted is not cut down to zero when it is put into its word. -/
theorem readPositive_pos {setting : Setting} {otherwise n : UInt32} (hdefault : 1 ≤ otherwise.toNat)
    (h : readPositive vars setting otherwise = .ok n) : 1 ≤ n.toNat := by
  rw [readPositive] at h
  split at h
  · cases h
    exact hdefault
  · split at h
    · cases h
    · cases h
    · next m hm hread =>
      cases h
      have hlt : m < 2 ^ 32 := Text.readUnsigned_lt hread
      rw [UInt32.toNat_ofNat_of_lt' hlt]
      exact Nat.pos_of_ne_zero hm

/-- What can be relied on once `c` was read: the counts are positive, the default size of a page is
no more than the largest one, and there is an address if the backend needs it. -/
structure IsUsable (c : Config) : Prop where
  maxConnections : 1 ≤ c.maxConnections.toNat
  defaultPageSize : 1 ≤ c.defaultPageSize.toNat
  maxPageSize : c.defaultPageSize.toNat ≤ c.maxPageSize.toNat
  address : c.backend = .postgres → ∃ url, c.databaseUrl = some url ∧ Text.isBlankText url = false

theorem isBlankText_of_readDatabaseUrl {url : String} (h : readDatabaseUrl vars = some url) :
    Text.isBlankText url = false := by
  have hfilter := (Option.filter_eq_some_iff.mp h).2
  simpa using hfilter

theorem exists_address {backend : Backend} (hbackend : backend = .postgres)
    (h : checkDatabase backend (readDatabaseUrl vars) = .ok ()) :
    ∃ url, readDatabaseUrl vars = some url ∧ Text.isBlankText url = false := by
  cases hurl : readDatabaseUrl vars with
  | none => simp [checkDatabase, hbackend, hurl] at h
  | some url => exact ⟨url, rfl, isBlankText_of_readDatabaseUrl hurl⟩

theorem le_of_checkPageSizes (h : c.checkPageSizes = .ok ()) :
    c.defaultPageSize.toNat ≤ c.maxPageSize.toNat := by
  rw [checkPageSizes] at h
  split at h
  · cases h
  · next hle => exact UInt32.le_iff_toNat_le.mp (UInt32.not_lt.mp hle)

/-- A configuration that is read from `vars` is usable. -/
theorem isUsable_of_read (h : read vars = .ok c) : c.IsUsable := by
  simp only [read, bind_eq_ok_iff] at h
  obtain ⟨backend, -, _, hdatabase, connections, hconnections, size, hsize, max, -, _, hsizes, hc⟩ :=
    h
  cases hc
  refine ⟨readPositive_pos (by decide) hconnections, readPositive_pos (by decide) hsize,
    le_of_checkPageSizes hsizes, ?_⟩
  intro hbackend
  exact exists_address hbackend hdatabase

/-! ## Pages -/

/-- The size of the page that a caller gets who asks for `size`, or for none. -/
def grantedSize (c : Config) (size : Option Int64) : Int :=
  min (size.elim (c.defaultPageSize.toNat : Int) Int64.toInt) c.maxPageSize.toNat

theorem toInt_ofNat_toNat (n : UInt32) : (Int64.ofNat n.toNat).toInt = n.toNat := by
  have hlt := n.toNat_lt
  exact Int64.toInt_ofNat_of_lt (by omega)

theorem toInt_min (a b : Int64) : (min a b).toInt = min a.toInt b.toInt := by
  have hmin : min a b = if a ≤ b then a else b := rfl
  rw [hmin]
  split
  · next hle => rw [Int.min_eq_left (Int64.le_iff_toInt_le.mp hle)]
  · next hlt =>
    rw [Int64.le_iff_toInt_le] at hlt
    rw [Int.min_eq_right (by omega)]

theorem toInt_wantedSize (c : Config) (size : Option Int64) :
    (min (size.getD (Int64.ofNat c.defaultPageSize.toNat)) (Int64.ofNat c.maxPageSize.toNat)).toInt =
      c.grantedSize size := by
  rw [toInt_min, toInt_ofNat_toNat, grantedSize]
  cases size with
  | none => rw [Option.getD_none, toInt_ofNat_toNat, Option.elim_none]
  | some n => rfl

/-- The page for `index` and `size` starts at the first page by default, and has the size that is
granted. -/
theorem page_eq_ok_iff {index size : Option Int64} {p : Page} :
    c.page index size = .ok p ↔
      (p.index : Int) = (index.getD 0).toInt ∧ (p.size : Int) = c.grantedSize size := by
  rw [page, Page.ofInts_eq_ok_iff, toInt_wantedSize]

/-- The size that is granted is positive unless the caller asks for another one that is not. -/
theorem IsUsable.grantedSize_pos_iff (h : c.IsUsable) (size : Option Int64) :
    0 < c.grantedSize size ↔ ∀ n ∈ size, 0 < n.toInt := by
  have hdefault := h.defaultPageSize
  have hmax := h.maxPageSize
  cases size with
  | none => simp [grantedSize]; omega
  | some n => simp [grantedSize]; omega

/-- There is a page if its index is not negative, its size is positive and its start fits into 64
bits. -/
theorem IsUsable.exists_page_iff (h : c.IsUsable) (index size : Option Int64) :
    (∃ p, c.page index size = .ok p) ↔
      0 ≤ (index.getD 0).toInt ∧ (∀ n ∈ size, 0 < n.toInt) ∧
        (index.getD 0).toInt * c.grantedSize size < 2 ^ 64 := by
  rw [← h.grantedSize_pos_iff, ← toInt_wantedSize]
  exact Page.exists_ofInts_iff _ _

/-- With the settings that were read from `vars`, every page that a caller may ask for is there, it
starts where the caller says, and it has the size that the caller asks for, or else the default one,
but no more than `c.maxPageSize`. Without a wish there is always a page. -/
theorem pages_areBounded (h : read vars = .ok c) :
    c.IsUsable ∧
    (∀ index size : Option Int64,
      ((∃ p, c.page index size = .ok p) ↔
        0 ≤ (index.getD 0).toInt ∧ (∀ n ∈ size, 0 < n.toInt) ∧
          (index.getD 0).toInt * c.grantedSize size < 2 ^ 64) ∧
      ∀ p, c.page index size = .ok p →
        (p.index : Int) = (index.getD 0).toInt ∧ (p.size : Int) = c.grantedSize size ∧
          p.size ≤ c.maxPageSize.toNat) ∧
    ∃ p, c.page none none = .ok p ∧ p.index = 0 ∧ p.size = c.defaultPageSize.toNat := by
  have husable := isUsable_of_read h
  have hmax := husable.maxPageSize
  refine ⟨husable, ?_, ?_⟩
  · intro index size
    refine ⟨husable.exists_page_iff index size, ?_⟩
    intro p hp
    obtain ⟨hindex, hsize⟩ := page_eq_ok_iff.mp hp
    have hle : c.grantedSize size ≤ c.maxPageSize.toNat := Int.min_le_right _ _
    exact ⟨hindex, hsize, by omega⟩
  · have hgranted : c.grantedSize none = c.defaultPageSize.toNat := by
      rw [grantedSize, Option.elim_none, Int.min_eq_left (by omega)]
    obtain ⟨p, hp⟩ := (husable.exists_page_iff none none).mpr ⟨by decide, nofun, by simp⟩
    obtain ⟨hindex, hsize⟩ := page_eq_ok_iff.mp hp
    rw [hgranted] at hsize
    exact ⟨p, hp, by simpa using hindex, by omega⟩

/-- Settings with blanks, a sign and zeros in front, with which a caller asks for a large page far
behind. -/
theorem pages_areBounded_postgres :
    let vars : Variables := fun name =>
      match name with
      | "REPOKIT_BACKEND" => some " PostgreSQL"
      | "DATABASE_URL" => some "postgres://localhost"
      | "REPOKIT_DEFAULT_PAGE_SIZE" => some "+007"
      | "REPOKIT_MAX_PAGE_SIZE" => some "4294967295\n"
      | _ => none
    let c : Config := ⟨.postgres, some "postgres://localhost", 5, 7, 4294967295⟩
    read vars = .ok c ∧ c.grantedSize none = 7 ∧
      (∃ p, c.page (some 4294967296) (some 4294967297) = .ok p ∧ p.size = 4294967295) ∧
      ¬ ∃ p, c.page (some 4294967298) (some 4294967297) = .ok p := by
  intro vars c
  have hread : read vars = .ok c := rfl
  have hpages := (pages_areBounded hread).2.1
  have hpositive : ∀ n ∈ some (4294967297 : Int64), 0 < n.toInt := by
    rintro n ⟨⟩
    decide
  obtain ⟨p, hp⟩ := (hpages (some 4294967296) (some 4294967297)).1.mpr
    ⟨by decide, hpositive, by decide⟩
  have hsize := ((hpages (some 4294967296) (some 4294967297)).2 p hp).2.1
  refine ⟨hread, by decide, ⟨p, hp, ?_⟩, ?_⟩
  · have hgranted : c.grantedSize (some 4294967297) = 4294967295 := by decide
    omega
  · intro h
    obtain ⟨-, -, hlt⟩ := (hpages (some 4294967298) (some 4294967297)).1.mp h
    exact absurd hlt (by decide)

end Config

end Quarry
