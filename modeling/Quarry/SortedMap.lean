/-!
# Sorted maps

A finite map as the list of its entries in the ascending order of their keys. The order is what a
query shows when it sorts by nothing else, so it belongs to the type: no key occurs twice, and two
maps with the same entries are the same list. The operations are first given on lists of entries and
then on maps, together with the proof that they keep the order.
-/

namespace Quarry

/-! ## Lists of entries -/

namespace SortedEntries

variable {κ ν : Type} [Ord κ]

/-- The keys of `entries` ascend, so that no key occurs twice. -/
def Ascending (entries : List (κ × ν)) : Prop :=
  entries.Pairwise fun a b => compare a.1 b.1 = .lt

/-- Puts `value` under `key` at its place; an earlier value of `key` is replaced. -/
def insert (key : κ) (value : ν) : List (κ × ν) → List (κ × ν)
  | [] => [(key, value)]
  | (k, v) :: rest =>
    match compare key k with
    | .lt => (key, value) :: (k, v) :: rest
    | .eq => (key, value) :: rest
    | .gt => (k, v) :: insert key value rest

/-- The value under `key`, if there is one. -/
def find? (key : κ) : List (κ × ν) → Option ν
  | [] => none
  | (k, v) :: rest => if compare key k = .eq then some v else find? key rest

/-- The `entries` without the one of `key`. -/
def erase (key : κ) (entries : List (κ × ν)) : List (κ × ν) :=
  entries.filter fun e => compare key e.1 ≠ .eq

theorem mem_of_mem_insert {key : κ} {value : ν} {entries : List (κ × ν)} {e : κ × ν}
    (h : e ∈ insert key value entries) : e = (key, value) ∨ e ∈ entries := by
  induction entries with
  | nil => simpa [insert] using h
  | cons head rest ih =>
    obtain ⟨k, v⟩ := head
    simp only [insert] at h
    split at h
    · simpa using h
    · rcases List.mem_cons.mp h with h | h
      · exact .inl h
      · exact .inr (List.mem_cons_of_mem _ h)
    · rcases List.mem_cons.mp h with h | h
      · exact .inr (h ▸ List.mem_cons_self)
      · exact (ih h).imp id (List.mem_cons_of_mem _)

theorem ascending_insert [Std.TransOrd κ] [Std.LawfulEqOrd κ] (key : κ) (value : ν)
    {entries : List (κ × ν)} (h : Ascending entries) : Ascending (insert key value entries) := by
  induction entries with
  | nil => simp [insert, Ascending]
  | cons head rest ih =>
    obtain ⟨k, v⟩ := head
    obtain ⟨hhead, hrest⟩ := List.pairwise_cons.mp h
    simp only [insert]
    split
    · next hlt =>
      refine List.pairwise_cons.mpr ⟨fun e he => ?_, h⟩
      rcases List.mem_cons.mp he with rfl | he
      · exact hlt
      · exact Std.TransCmp.lt_trans hlt (hhead e he)
    · next heq =>
      have hkey : key = k := Std.LawfulEqCmp.eq_of_compare heq
      exact List.pairwise_cons.mpr ⟨fun e he => hkey ▸ hhead e he, hrest⟩
    · next hgt =>
      refine List.pairwise_cons.mpr ⟨fun e he => ?_, ih hrest⟩
      rcases mem_of_mem_insert he with rfl | he
      · exact Std.OrientedCmp.lt_of_gt hgt
      · exact hhead e he

theorem ascending_erase (key : κ) {entries : List (κ × ν)} (h : Ascending entries) :
    Ascending (erase key entries) :=
  List.Pairwise.filter _ h

end SortedEntries

/-! ## Maps -/

/-- A finite map whose `entries` are kept in the order of their keys. -/
structure SortedMap (κ ν : Type) [Ord κ] where
  /-- The entries, the smallest key first. -/
  entries : List (κ × ν)
  ascending : SortedEntries.Ascending entries

namespace SortedMap

variable {κ ν : Type} [Ord κ]

/-- The map without entries. -/
def empty : SortedMap κ ν := ⟨[], List.Pairwise.nil⟩

/-- The value under `key`, if there is one. -/
def find? (m : SortedMap κ ν) (key : κ) : Option ν :=
  SortedEntries.find? key m.entries

/-- There is a value under `key`. -/
def contains (m : SortedMap κ ν) (key : κ) : Bool :=
  (m.find? key).isSome

/-- The number of keys. -/
def size (m : SortedMap κ ν) : Nat :=
  m.entries.length

/-- The keys in their order. -/
def keys (m : SortedMap κ ν) : List κ :=
  m.entries.map Prod.fst

/-- The values in the order of their keys. -/
def values (m : SortedMap κ ν) : List ν :=
  m.entries.map Prod.snd

/-- The map `m` with `value` under `key`. -/
def insert [Std.TransOrd κ] [Std.LawfulEqOrd κ] (m : SortedMap κ ν) (key : κ) (value : ν) :
    SortedMap κ ν :=
  ⟨SortedEntries.insert key value m.entries, SortedEntries.ascending_insert key value m.ascending⟩

/-- The map `m` without `key`. -/
def erase (m : SortedMap κ ν) (key : κ) : SortedMap κ ν :=
  ⟨SortedEntries.erase key m.entries, SortedEntries.ascending_erase key m.ascending⟩

end SortedMap

end Quarry
