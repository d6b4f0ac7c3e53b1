import Mathlib.Data.List.Forall2
import Mathlib.Logic.Function.Basic
import Quarry.SortedMap

/-!
# Looking up keys of sorted maps

What the operations on sorted maps do to the value of a key. A map is known by the values of its
keys, so the operations are used through these equations and never unfolded again. Two maps whose
keys are in the same order go through the same operations side by side
(`SortedEntries.Parallel`).
-/

namespace Quarry

/-! ## Lists of entries -/

namespace SortedEntries

variable {κ ν : Type} [Ord κ]

theorem find?_eq_none {key : κ} {entries : List (κ × ν)}
    (h : ∀ e ∈ entries, compare key e.1 ≠ .eq) : find? key entries = none := by
  induction entries with
  | nil => rfl
  | cons head rest ih =>
    obtain ⟨k, v⟩ := head
    have hk : compare key k ≠ .eq := h (k, v) List.mem_cons_self
    rw [find?, if_neg hk]
    exact ih fun e he => h e (List.mem_cons_of_mem _ he)

theorem mem_of_find? [Std.LawfulEqOrd κ] {key : κ} {value : ν} {entries : List (κ × ν)}
    (h : find? key entries = some value) : (key, value) ∈ entries := by
  induction entries with
  | nil => simp [find?] at h
  | cons head rest ih =>
    obtain ⟨k, v⟩ := head
    rw [find?] at h
    split at h
    · next heq =>
      have hkey : key = k := Std.LawfulEqCmp.eq_of_compare heq
      rw [hkey, Option.some.inj h]
      exact List.mem_cons_self
    · exact List.mem_cons_of_mem _ (ih h)

theorem erase_cons (key k : κ) (v : ν) (rest : List (κ × ν)) :
    erase key ((k, v) :: rest) =
      if compare key k = .eq then erase key rest else (k, v) :: erase key rest := by
  by_cases h : compare key k = .eq
  · simp [erase, h]
  · simp [erase, h]

section Lookup

variable [Std.LawfulEqOrd κ]

theorem find?_insert_self (key : κ) (value : ν) (entries : List (κ × ν)) :
    find? key (insert key value entries) = some value := by
  have hself : compare key key = .eq := Std.ReflCmp.compare_self
  induction entries with
  | nil => simp [insert, find?]
  | cons head rest ih =>
    obtain ⟨k, v⟩ := head
    rw [insert]
    split
    · simp [find?]
    · simp [find?]
    · next hgt =>
      rw [find?, if_neg (by rw [hgt]; decide)]
      exact ih

/-- What is inserted under `key` does not matter to `other` keys. -/
theorem find?_insert_of_ne {key other : κ} (h : other ≠ key) (value : ν)
    (entries : List (κ × ν)) : find? other (insert key value entries) = find? other entries := by
  have hne : compare other key ≠ .eq := fun heq => h (Std.LawfulEqCmp.eq_of_compare heq)
  induction entries with
  | nil => simp [insert, find?, hne]
  | cons head rest ih =>
    obtain ⟨k, v⟩ := head
    rw [insert]
    split
    · rw [find?, if_neg hne]
    · next heq =>
      have hk : compare other k ≠ .eq := by
        rw [← Std.LawfulEqCmp.eq_of_compare heq]
        exact hne
      rw [find?, if_neg hne, find?, if_neg hk]
    · simp only [find?, ih]

theorem mem_keys_insert {key other : κ} {value : ν} {entries : List (κ × ν)} :
    other ∈ (insert key value entries).map Prod.fst ↔
      other = key ∨ other ∈ entries.map Prod.fst := by
  induction entries with
  | nil => simp [insert]
  | cons head rest ih =>
    obtain ⟨k, v⟩ := head
    rw [insert]
    split
    · simp
    · next heq =>
      rw [← Std.LawfulEqCmp.eq_of_compare heq]
      simp
    · rw [List.map_cons, List.mem_cons, ih, List.map_cons, List.mem_cons]
      exact or_left_comm

/-- Only the last value that is put under a `key` remains. -/
theorem insert_insert_self (key : κ) (value other : ν) (entries : List (κ × ν)) :
    insert key value (insert key other entries) = insert key value entries := by
  have hself : compare key key = .eq := Std.ReflCmp.compare_self
  induction entries with
  | nil => simp only [insert, hself]
  | cons head rest ih =>
    obtain ⟨k, v⟩ := head
    cases h : compare key k with
    | lt => simp only [insert, h, hself]
    | eq => simp only [insert, h, hself]
    | gt => simp only [insert, h, ih]

theorem find?_erase_self (key : κ) (entries : List (κ × ν)) :
    find? key (erase key entries) = none := by
  refine find?_eq_none fun e he => ?_
  simpa using (List.mem_filter.mp he).2

/-- What is erased under `key` does not matter to `other` keys. -/
theorem find?_erase_of_ne {key other : κ} (h : other ≠ key) (entries : List (κ × ν)) :
    find? other (erase key entries) = find? other entries := by
  induction entries with
  | nil => rfl
  | cons head rest ih =>
    obtain ⟨k, v⟩ := head
    by_cases hk : compare key k = .eq
    · have hne : compare other k ≠ .eq := by
        rw [← Std.LawfulEqCmp.eq_of_compare hk]
        exact fun heq => h (Std.LawfulEqCmp.eq_of_compare heq)
      rw [find?, if_neg hne, ← ih]
      simp [erase, hk]
    · have herase : erase key ((k, v) :: rest) = (k, v) :: erase key rest := by
        simp [erase, hk]
      rw [herase, find?, find?, ih]

end Lookup

variable [Std.TransOrd κ] [Std.LawfulEqOrd κ]

/-- In ascending entries an entry is found by its `key`. -/
theorem find?_of_mem {key : κ} {value : ν} {entries : List (κ × ν)} (hasc : Ascending entries)
    (h : (key, value) ∈ entries) : find? key entries = some value := by
  induction entries with
  | nil => cases h
  | cons head rest ih =>
    obtain ⟨k, v⟩ := head
    obtain ⟨hhead, hrest⟩ := List.pairwise_cons.mp hasc
    rw [find?]
    rcases List.mem_cons.mp h with heq | hmem
    · obtain ⟨rfl, rfl⟩ := Prod.mk.inj heq
      rw [if_pos Std.ReflCmp.compare_self]
    · have hgt : compare key k = .gt := Std.OrientedCmp.gt_of_lt (hhead _ hmem)
      rw [if_neg (by rw [hgt]; decide)]
      exact ih hrest hmem

/-- In ascending entries the value of a `key` can be put again without a change. -/
theorem insert_of_find? {key : κ} {value : ν} {entries : List (κ × ν)} (hasc : Ascending entries)
    (h : find? key entries = some value) : insert key value entries = entries := by
  induction entries with
  | nil => simp [find?] at h
  | cons head rest ih =>
    obtain ⟨k, v⟩ := head
    obtain ⟨hhead, hrest⟩ := List.pairwise_cons.mp hasc
    rw [find?] at h
    split at h
    · next heq =>
      rw [insert, heq, Option.some.inj h, Std.LawfulEqCmp.eq_of_compare heq]
    · next hne =>
      have hgt : compare key k = .gt :=
        Std.OrientedCmp.gt_of_lt (hhead _ (mem_of_find? h))
      rw [insert, hgt]
      simp only [ih hrest h]

/-- In ascending entries a new value under a `key` that is there leaves the keys as they are. -/
theorem keys_insert_of_mem {key : κ} (value : ν) {entries : List (κ × ν)}
    (hasc : Ascending entries) (h : key ∈ entries.map Prod.fst) :
    (insert key value entries).map Prod.fst = entries.map Prod.fst := by
  induction entries with
  | nil => cases h
  | cons head rest ih =>
    obtain ⟨k, v⟩ := head
    obtain ⟨hhead, hrest⟩ := List.pairwise_cons.mp hasc
    rcases List.mem_cons.mp h with rfl | hmem
    · have hself : compare key key = .eq := Std.ReflCmp.compare_self
      rw [insert, hself]
      rfl
    · obtain ⟨e, he, rfl⟩ := List.mem_map.mp hmem
      have hgt : compare e.1 k = .gt := Std.OrientedCmp.gt_of_lt (hhead e he)
      rw [insert, hgt]
      exact congrArg (k :: ·) (ih hrest hmem)

/-! ## Entries side by side -/

section Parallel

variable {κ κ' ν ν' : Type} {f : κ → κ'} {R : ν → ν' → Prop}

/-- Two lists of entries go side by side: `f` makes the keys of the second from those of the first,
and the values are related by `R`. -/
def Parallel (f : κ → κ') (R : ν → ν' → Prop) : List (κ × ν) → List (κ' × ν') → Prop :=
  List.Forall₂ fun e e' => e'.1 = f e.1 ∧ R e.2 e'.2

variable {es : List (κ × ν)} {es' : List (κ' × ν')}

theorem Parallel.values (h : Parallel f R es es') :
    List.Forall₂ R (es.map Prod.snd) (es'.map Prod.snd) := by
  rw [List.forall₂_map_left_iff, List.forall₂_map_right_iff]
  exact h.imp fun _ _ he => he.2

variable [Ord κ] [Ord κ'] (hf : ∀ a b, compare (f a) (f b) = compare a b)

include hf

/-- Side by side, values are found under a key and under what `f` makes of it, or none is. -/
theorem Parallel.find? (h : Parallel f R es es') (key : κ) :
    Option.Rel R (find? key es) (find? (f key) es') := by
  induction h with
  | nil => exact .none
  | @cons e e' es es' he _ ih =>
    obtain ⟨k, v⟩ := e
    obtain ⟨k', v'⟩ := e'
    obtain ⟨rfl, hv⟩ := he
    rw [SortedEntries.find?, SortedEntries.find?, hf]
    by_cases heq : compare key k = .eq
    · rw [if_pos heq, if_pos heq]
      exact .some hv
    · rw [if_neg heq, if_neg heq]
      exact ih

theorem Parallel.insert (h : Parallel f R es es') (key : κ) {v : ν} {v' : ν'} (hv : R v v') :
    Parallel f R (insert key v es) (insert (f key) v' es') := by
  induction h with
  | nil => exact .cons ⟨rfl, hv⟩ .nil
  | @cons e e' es es' he hrest ih =>
    obtain ⟨k, w⟩ := e
    obtain ⟨k', w'⟩ := e'
    obtain ⟨rfl, hw⟩ := he
    rw [SortedEntries.insert, SortedEntries.insert, hf]
    cases compare key k with
    | lt => exact .cons ⟨rfl, hv⟩ (.cons ⟨rfl, hw⟩ hrest)
    | eq => exact .cons ⟨rfl, hv⟩ hrest
    | gt => exact .cons ⟨rfl, hw⟩ ih

theorem Parallel.erase (h : Parallel f R es es') (key : κ) :
    Parallel f R (erase key es) (erase (f key) es') := by
  induction h with
  | nil => exact .nil
  | @cons e e' es es' he _ ih =>
    obtain ⟨k, w⟩ := e
    obtain ⟨k', w'⟩ := e'
    obtain ⟨rfl, hw⟩ := he
    rw [erase_cons, erase_cons, hf]
    by_cases heq : compare key k = .eq
    · rw [if_pos heq, if_pos heq]
      exact ih
    · rw [if_neg heq, if_neg heq]
      exact .cons ⟨rfl, hw⟩ ih

end Parallel

end SortedEntries

/-! ## Maps -/

namespace SortedMap

variable {κ ν : Type} [Ord κ]

theorem pairwise_keys (m : SortedMap κ ν) : m.keys.Pairwise fun a b => compare a b = .lt :=
  List.pairwise_map.mpr m.ascending

theorem eq_of_ascending [Std.TransOrd κ] {as bs : List κ}
    (has : as.Pairwise fun a b => compare a b = .lt)
    (hbs : bs.Pairwise fun a b => compare a b = .lt) (h : ∀ key, key ∈ as ↔ key ∈ bs) : as = bs := by
  have hnodup {cs : List κ} (hcs : cs.Pairwise fun a b => compare a b = .lt) : cs.Nodup := by
    refine hcs.imp ?_
    rintro a _ hlt rfl
    exact Std.OrientedCmp.not_lt_of_lt hlt hlt
  have hperm : as.Perm bs := (List.perm_ext_iff_of_nodup (hnodup has) (hnodup hbs)).mpr h
  refine hperm.eq_of_pairwise ?_ has hbs
  intro a b _ _ hab hba
  exact absurd hba (Std.OrientedCmp.not_lt_of_lt hab)

variable [Std.LawfulEqOrd κ]

@[simp] theorem find?_erase_self (m : SortedMap κ ν) (key : κ) :
    (m.erase key).find? key = none :=
  SortedEntries.find?_erase_self key m.entries

theorem find?_erase_of_ne (m : SortedMap κ ν) {key other : κ} (h : other ≠ key) :
    (m.erase key).find? other = m.find? other :=
  SortedEntries.find?_erase_of_ne h m.entries

variable [Std.TransOrd κ]

@[simp] theorem find?_insert_self (m : SortedMap κ ν) (key : κ) (value : ν) :
    (m.insert key value).find? key = some value :=
  SortedEntries.find?_insert_self key value m.entries

theorem find?_insert_of_ne (m : SortedMap κ ν) {key other : κ} (h : other ≠ key) (value : ν) :
    (m.insert key value).find? other = m.find? other :=
  SortedEntries.find?_insert_of_ne h value m.entries

section Update

variable {α β : Type} [DecidableEq α] {f : α → κ}

/-- What `g` says of the values that are found under the keys `f b` is updated at `a` by a value that
is inserted under `f a`. -/
theorem map_find?_insert (m : SortedMap κ ν) (hf : Function.Injective f) (g : ν → β) (a : α)
    (value : ν) :
    (fun b => ((m.insert (f a) value).find? (f b)).map g) =
      Function.update (fun b => (m.find? (f b)).map g) a (some (g value)) := by
  funext b
  by_cases hb : b = a
  · subst hb
    rw [Function.update_self, find?_insert_self]
    rfl
  · rw [Function.update_of_ne hb, find?_insert_of_ne _ (hf.ne hb)]

omit [Std.TransOrd κ] in
theorem map_find?_erase (m : SortedMap κ ν) (hf : Function.Injective f) (g : ν → β) (a : α) :
    (fun b => ((m.erase (f a)).find? (f b)).map g) =
      Function.update (fun b => (m.find? (f b)).map g) a none := by
  funext b
  by_cases hb : b = a
  · subst hb
    rw [Function.update_self, find?_erase_self]
    rfl
  · rw [Function.update_of_ne hb, find?_erase_of_ne _ (hf.ne hb)]

end Update

theorem map_find?_keys (m : SortedMap κ ν) : m.keys.map m.find? = m.values.map some := by
  rw [keys, values, List.map_map, List.map_map]
  refine List.map_congr_left fun e he => ?_
  exact SortedEntries.find?_of_mem m.ascending he

/-- A value is that of `key` or is there without it as well. -/
theorem mem_values_cases {m : SortedMap κ ν} {key : κ} {value : ν} (h : m.find? key = some value)
    {v : ν} (hv : v ∈ m.values) : v = value ∨ v ∈ (m.erase key).values := by
  obtain ⟨⟨k, v⟩, he, rfl⟩ := List.mem_map.mp hv
  by_cases hk : compare key k = .eq
  · have hkey : key = k := Std.LawfulEqCmp.eq_of_compare hk
    subst hkey
    have hfind : m.find? key = some v := SortedEntries.find?_of_mem m.ascending he
    exact Or.inl (Option.some.inj (hfind.symm.trans h))
  · refine Or.inr (List.mem_map.mpr ⟨(k, v), ?_, rfl⟩)
    exact List.mem_filter.mpr ⟨he, decide_eq_true hk⟩

theorem mem_keys_insert {m : SortedMap κ ν} {key other : κ} {value : ν} :
    other ∈ (m.insert key value).keys ↔ other = key ∨ other ∈ m.keys :=
  SortedEntries.mem_keys_insert

theorem keys_insert_of_mem {m : SortedMap κ ν} {key : κ} (h : key ∈ m.keys) (value : ν) :
    (m.insert key value).keys = m.keys :=
  SortedEntries.keys_insert_of_mem value m.ascending h

theorem insert_insert_self (m : SortedMap κ ν) (key : κ) (value other : ν) :
    (m.insert key other).insert key value = m.insert key value := by
  simp only [insert, SortedEntries.insert_insert_self]

theorem insert_of_find? {m : SortedMap κ ν} {key : κ} {value : ν} (h : m.find? key = some value) :
    m.insert key value = m := by
  obtain ⟨entries, hasc⟩ := m
  have heq : SortedEntries.insert key value entries = entries :=
    SortedEntries.insert_of_find? hasc h
  simp only [insert, heq]

end SortedMap

end Quarry
