import Quarry.Proofs.Ordering

/-!
# Keys and places

Where an entity comes out of a sort is settled by its key and, among equal keys, by the place at
which it came in. Both directions leave the places as they are, although downward the keys go the
other way (`OrderBy.sort_byKeyAndPlace`). So sorting downward is not the same as turning round what
was sorted upward: the entities have to be turned round before as well (`OrderBy.sort_reversed`).
-/

namespace Quarry

namespace SortDirection

/-- The other direction. -/
def opposite : SortDirection → SortDirection
  | ascending => descending
  | descending => ascending

theorem compareKeys_opposite (d : SortDirection) (k l : Value) :
    d.opposite.compareKeys k l = d.compareKeys l k := by
  cases d <;> rfl

end SortDirection

namespace OrderBy

variable {α β : Type} {o : OrderBy α} {entities sorted : List α}

/-! ## The other direction -/

/-- The same keys in the other direction. -/
def reversed (o : OrderBy α) : OrderBy α :=
  { o with direction := o.direction.opposite }

theorem InOrder.reversed {a b : α} (h : o.InOrder a b) : o.reversed.InOrder b a := by
  obtain ⟨k, l, hk, hl, hle⟩ := h
  refine ⟨l, k, hl, hk, ?_⟩
  have hturned : o.reversed.direction.compareKeys l k = o.direction.compareKeys k l :=
    o.direction.compareKeys_opposite l k
  rw [hturned]
  exact hle

/-- A stable sort that is turned round is one of the entities turned round, in the other direction.
-/
theorem IsStableSort.reversed (h : o.IsStableSort entities sorted) :
    o.reversed.IsStableSort entities.reverse sorted.reverse := by
  constructor
  · exact sorted.reverse_perm.trans (h.perm.trans entities.reverse_perm.symm)
  · rw [List.pairwise_reverse]
    exact h.ordered.imp InOrder.reversed
  · intro k
    have hlike : o.reversed.sortsLike k = o.sortsLike k := rfl
    rw [hlike, List.filter_reverse, List.filter_reverse, h.stable k]

/-- To sort the entities turned round in the other direction is to turn the result round. -/
theorem sort_reversed (h : firstError? o.key entities = none) :
    o.reversed.sort entities.reverse = (o.sort entities).map List.reverse := by
  have hreadable : firstError? o.reversed.key entities.reverse = none := by
    rw [firstError?_eq_none_iff] at h ⊢
    intro a ha
    exact h a (List.mem_reverse.mp ha)
  obtain ⟨sorted, hsort, hstable⟩ := exists_sort h
  obtain ⟨turned, hturned, hturnedStable⟩ := exists_sort hreadable
  have hsame : turned = sorted.reverse := hturnedStable.unique hstable.reversed
  rw [hsort, hturned, hsame]
  rfl

/-! ## Places -/

/-- Sorts things by the key of what they are about, which `g` tells. -/
def comap (o : OrderBy α) (g : β → α) : OrderBy β :=
  ⟨o.field, o.direction, fun b => o.key (g b)⟩

theorem IsStableSort.map {g : β → α} {things sortedThings : List β}
    (h : (o.comap g).IsStableSort things sortedThings) :
    o.IsStableSort (things.map g) (sortedThings.map g) := by
  constructor
  · exact h.perm.map g
  · rw [List.pairwise_map]
    exact h.ordered
  · intro k
    have hstable := h.stable k
    rw [List.filter_map, List.filter_map]
    exact congrArg (List.map g) hstable

theorem pairwise_zipIdx_snd (as : List α) : as.zipIdx.Pairwise fun p q => p.2 < q.2 := by
  have hplaces : (as.zipIdx.map Prod.snd).Pairwise (· < ·) := by
    rw [List.zipIdx_map_snd]
    exact List.pairwise_lt_range'
  exact List.pairwise_map.mp hplaces

/-- The key of the entity in `p` comes first, or the keys are equal and its place does. -/
def ByKeyAndPlace (o : OrderBy α) (p q : α × Nat) : Prop :=
  ∃ k l, o.key p.1 = .ok k ∧ o.key q.1 = .ok l ∧
    (o.direction.Leads k l ∨ k.sortCompare l = .eq ∧ p.2 < q.2)

/-- If all keys can be read, the sorted entities are those of `placed`, which is in order by key and
place. -/
theorem exists_placed (h : firstError? o.key entities = none) :
    ∃ placed : List (α × Nat), placed.Perm entities.zipIdx ∧ placed.Pairwise o.ByKeyAndPlace ∧
      o.sort entities = .ok (placed.map Prod.fst) := by
  have hentities : entities.zipIdx.map Prod.fst = entities := List.zipIdx_map_fst 0 entities
  have hreadable : firstError? (o.comap Prod.fst).key entities.zipIdx = none := by
    rw [firstError?_eq_none_iff] at h ⊢
    intro p hp
    refine h p.1 ?_
    rw [← hentities]
    exact List.mem_map_of_mem hp
  obtain ⟨placed, -, hplaced⟩ := exists_sort hreadable
  refine ⟨placed, hplaced.perm, ?_, ?_⟩
  · refine (hplaced.pairwise_lex (pairwise_zipIdx_snd entities)).imp ?_
    intro p q ⟨k, l, hk, hl, hkeys⟩
    refine ⟨k, l, hk, hl, hkeys.imp SortDirection.leads_iff.mpr ?_⟩
    rintro ⟨rfl, hplace⟩
    exact ⟨Std.ReflCmp.compare_self, hplace⟩
  · obtain ⟨sorted, hsort, hstable⟩ := exists_sort h
    have hsame := hplaced.map
    rw [hentities] at hsame
    rw [hsort, hstable.unique hsame]

/-- If all keys can be read, `entities` are sorted by their keys, and those with equal keys by their
places, in both directions. To sort in the other direction the same entities turned round is to turn
the result round. Otherwise the first key that cannot be read is reported. -/
theorem sort_byKeyAndPlace (o : OrderBy α) (entities : List α) :
    match firstError? o.key entities with
    | some e => o.sort entities = .error e
    | none =>
      ∃ placed : List (α × Nat), placed.Perm entities.zipIdx ∧ placed.Pairwise o.ByKeyAndPlace ∧
        o.sort entities = .ok (placed.map Prod.fst) ∧
        o.reversed.sort entities.reverse = .ok (placed.map Prod.fst).reverse := by
  cases h : firstError? o.key entities with
  | some e => exact sort_of_firstError h
  | none =>
    obtain ⟨placed, hperm, hordered, hsort⟩ := exists_placed h
    refine ⟨placed, hperm, hordered, hsort, ?_⟩
    rw [sort_reversed h, hsort]
    rfl

end OrderBy

end Quarry
