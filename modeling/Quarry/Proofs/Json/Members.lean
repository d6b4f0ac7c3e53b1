import Quarry.Json
import Quarry.Proofs.SortedMap

/-!
# Members of kept objects

An object that is kept has its members in the order of their keys. As long as no key occurs twice,
each key has the value there that it has in the order of writing, itself kept in the same way.
-/

namespace Quarry.Json

/-- The member of an object under `key` is the entry of its list. -/
theorem member?_eq_find? (key : String) (members : List (String × Json)) :
    member? key members = SortedEntries.find? key members := by
  unfold member?
  induction members with
  | nil => rfl
  | cons m rest ih =>
    obtain ⟨k, v⟩ := m
    rw [SortedEntries.find?]
    by_cases h : key = k
    · rw [h, if_pos Std.ReflCmp.compare_self, List.lookup_cons, beq_self_eq_true]
    · rw [if_neg fun heq => h (Std.LawfulEqCmp.eq_of_compare heq), List.lookup_cons,
        beq_false_of_ne h]
      exact ih

/-- Sorting goes on from members that are `sorted` already. -/
theorem find?_foldl_insert (key : String) (members sorted : List (String × Json))
    (hkeys : (members.map Prod.fst).Nodup) :
    SortedEntries.find? key
        (members.foldl (fun sorted m => SortedEntries.insert m.1 m.2 sorted) sorted) =
      (member? key members).or (SortedEntries.find? key sorted) := by
  induction members generalizing sorted with
  | nil => rfl
  | cons m rest ih =>
    obtain ⟨k, v⟩ := m
    obtain ⟨hk, hrest⟩ := List.nodup_cons.mp hkeys
    rw [List.foldl_cons, ih _ hrest, member?_eq_find?, member?_eq_find?, SortedEntries.find?]
    by_cases h : key = k
    · have hnone : SortedEntries.find? k rest = none := by
        refine SortedEntries.find?_eq_none fun e he heq => hk ?_
        exact List.mem_map.mpr ⟨e, he, (Std.LawfulEqCmp.eq_of_compare heq).symm⟩
      rw [h, if_pos Std.ReflCmp.compare_self, SortedEntries.find?_insert_self, hnone]
      rfl
    · rw [if_neg fun heq => h (Std.LawfulEqCmp.eq_of_compare heq),
        SortedEntries.find?_insert_of_ne h]

/-- Sorting different keys does not change the value of any `key`. -/
theorem member?_sortMembers (key : String) {members : List (String × Json)}
    (hkeys : (members.map Prod.fst).Nodup) :
    member? key (sortMembers members) = member? key members := by
  rw [member?_eq_find?, sortMembers, find?_foldl_insert key members [] hkeys]
  exact Option.or_none

theorem member?_sortedMembers (key : String) (members : List (String × Json)) :
    member? key (sortedMembers members) = (member? key members).map sorted := by
  unfold member?
  induction members with
  | nil => rfl
  | cons m rest ih =>
    obtain ⟨k, v⟩ := m
    rw [sortedMembers, List.lookup_cons, List.lookup_cons]
    cases key == k with
    | true => rfl
    | false => exact ih

theorem map_fst_sortedMembers (members : List (String × Json)) :
    (sortedMembers members).map Prod.fst = members.map Prod.fst := by
  induction members with
  | nil => rfl
  | cons m rest ih =>
    obtain ⟨k, v⟩ := m
    rw [sortedMembers, List.map_cons, List.map_cons, ih]

/-- The value of `key` in an object that is kept is the one it had, with its own members sorted. -/
theorem member?_kept (key : String) {members : List (String × Json)}
    (hkeys : (members.map Prod.fst).Nodup) :
    member? key (sortMembers (sortedMembers members)) = (member? key members).map sorted := by
  rw [member?_sortMembers key (by rw [map_fst_sortedMembers]; exact hkeys),
    member?_sortedMembers]

end Quarry.Json
