import Quarry.Ordering
import Quarry.Proofs.Except
import Quarry.Proofs.Value.Sorting

/-!
# Stable sorting

Entities are sorted by their keys. If all keys can be read, what comes out is the stable sort of the
entities (`OrderBy.exists_sort`): the keys go in the direction of the ordering, and the entities of
each class of equal keys are left in their order. Otherwise the first key that cannot be read is
reported (`OrderBy.sort_of_firstError`).
-/

namespace Quarry

theorem isLE_total {κ : Type} (order : κ → κ → Ordering) [Std.OrientedCmp order] (k l : κ) :
    ((order k l).isLE || (order l k).isLE) = true := by
  have hswap : order l k = (order k l).swap := Std.OrientedCmp.eq_swap
  rw [hswap]
  cases order k l <;> rfl

namespace SortDirection

instance (d : SortDirection) : Std.TransCmp d.compareKeys :=
  match d with
  | .ascending => inferInstanceAs (Std.TransCmp Value.sortCompare)
  | .descending => inferInstanceAs (Std.TransCmp fun a b => Value.sortCompare b a)

instance (d : SortDirection) : Std.LawfulEqCmp d.compareKeys :=
  match d with
  | .ascending => inferInstanceAs (Std.LawfulEqCmp Value.sortCompare)
  | .descending => inferInstanceAs (Std.LawfulEqCmp fun a b => Value.sortCompare b a)

/-- In the direction `d` the key `k` comes first: the smaller one upward, the larger one downward.
-/
def Leads (d : SortDirection) (k l : Value) : Prop :=
  match d with
  | .ascending => k.sortCompare l = .lt
  | .descending => k.sortCompare l = .gt

theorem leads_iff {d : SortDirection} {k l : Value} :
    d.Leads k l ↔ d.compareKeys k l = .lt := by
  cases d with
  | ascending => exact Iff.rfl
  | descending =>
    show k.sortCompare l = .gt ↔ l.sortCompare k = .lt
    rw [Value.sortCompare_swap k l, Ordering.swap_eq_gt]

theorem not_leads_self {d : SortDirection} {k : Value} : ¬ d.Leads k k := by
  have hself : d.compareKeys k k = .eq := Std.ReflCmp.compare_self
  rw [leads_iff, hself]
  decide

end SortDirection

namespace OrderBy

variable {α : Type} {o : OrderBy α}

/-! ## Reading keys -/

/-- If a key cannot be read, the first such failure is reported. -/
theorem keyed_of_firstError {entities : List α} {e : EvaluationError}
    (h : firstError? o.key entities = some e) : o.keyed entities = .error e := by
  induction entities with
  | nil => cases h
  | cons a rest ih =>
    rw [keyed]
    cases hkey : o.key a with
    | error e' =>
      rw [firstError?_cons_of_error hkey] at h
      cases h
      rfl
    | ok k =>
      rw [firstError?_cons_of_ok hkey] at h
      rw [ih h]
      rfl

theorem exists_keyed {entities : List α} (h : firstError? o.key entities = none) :
    ∃ pairs, o.keyed entities = .ok pairs := by
  induction entities with
  | nil => exact ⟨[], rfl⟩
  | cons a rest ih =>
    rw [keyed]
    cases hkey : o.key a with
    | error e =>
      rw [firstError?_cons_of_error hkey] at h
      cases h
    | ok k =>
      rw [firstError?_cons_of_ok hkey] at h
      obtain ⟨pairs, hpairs⟩ := ih h
      refine ⟨(k, a) :: pairs, ?_⟩
      rw [hpairs]
      rfl

/-- The keyed entities are the `entities` with their keys. -/
theorem keyed_spec {entities : List α} {pairs : List (Value × α)}
    (h : o.keyed entities = .ok pairs) :
    pairs.map Prod.snd = entities ∧ ∀ pair ∈ pairs, o.key pair.2 = .ok pair.1 := by
  induction entities generalizing pairs with
  | nil =>
    cases h
    exact ⟨rfl, fun pair hpair => nomatch hpair⟩
  | cons a rest ih =>
    rw [keyed] at h
    split at h
    · cases h
    · next k hk =>
      obtain ⟨others, hothers, rfl⟩ := map_eq_ok_iff.mp h
      obtain ⟨hmap, hkeys⟩ := ih hothers
      refine ⟨congrArg (a :: ·) hmap, ?_⟩
      intro pair hpair
      rcases List.mem_cons.mp hpair with rfl | hpair
      · exact hk
      · exact hkeys pair hpair

/-! ## Sorting -/

/-- The key of `a` does not come after that of `b`. -/
def InOrder (o : OrderBy α) (a b : α) : Prop :=
  ∃ k l, o.key a = .ok k ∧ o.key b = .ok l ∧ (o.direction.compareKeys k l).isLE = true

/-- Whether `a` has a key that sorts like `k`. -/
def sortsLike (o : OrderBy α) (k : Value) (a : α) : Bool :=
  match o.key a with
  | .ok l => (l.sortCompare k).isEq
  | .error _ => false

/-- In `sorted` are the same entities in the order of their keys, with those of equal keys as they
were. -/
structure IsStableSort (o : OrderBy α) (entities sorted : List α) : Prop where
  perm : sorted.Perm entities
  ordered : sorted.Pairwise o.InOrder
  stable (k : Value) : sorted.filter (o.sortsLike k) = entities.filter (o.sortsLike k)

theorem sortsLike_self {k : Value} {a : α} (h : o.key a = .ok k) : o.sortsLike k a = true := by
  rw [sortsLike, h]
  exact Ordering.isEq_iff_eq_eq.mpr Std.ReflCmp.compare_self

theorem InOrder.antisymm {a b : α} (hab : o.InOrder a b) (hba : o.InOrder b a) :
    ∃ k, o.key a = .ok k ∧ o.key b = .ok k := by
  obtain ⟨k, l, hk, hl, hle⟩ := hab
  obtain ⟨l', k', hl', hk', hge⟩ := hba
  rw [hl] at hl'
  rw [hk] at hk'
  cases hl'
  cases hk'
  have heq : o.direction.compareKeys k l = .eq := Std.OrientedCmp.isLE_antisymm hle hge
  rw [← Std.LawfulEqCmp.eq_of_compare heq] at hl
  exact ⟨k, hk, hl⟩

/-- Two stable sorts of the same `entities` are the same. -/
theorem IsStableSort.unique {entities as bs : List α} (ha : o.IsStableSort entities as)
    (hb : o.IsStableSort entities bs) : as = bs := by
  have hperm : as.Perm bs := ha.perm.trans hb.perm.symm
  have hstable (k : Value) : as.filter (o.sortsLike k) = bs.filter (o.sortsLike k) :=
    (ha.stable k).trans (hb.stable k).symm
  have haordered := ha.ordered
  have hbordered := hb.ordered
  clear ha hb
  induction as generalizing bs with
  | nil => exact (List.nil_perm.mp hperm).symm
  | cons a as ih =>
    cases bs with
    | nil => exact absurd hperm.length_eq (by simp)
    | cons b bs =>
      rw [List.pairwise_cons] at haordered hbordered
      by_cases hab : a = b
      · subst hab
        have htails : as = bs := by
          refine ih (List.perm_cons a |>.mp hperm) ?_ haordered.2 hbordered.2
          intro k
          have hcons := hstable k
          rw [List.filter_cons, List.filter_cons] at hcons
          split at hcons
          · exact List.tail_eq_of_cons_eq hcons
          · exact hcons
        rw [htails]
      · have hbmem : b ∈ as := (List.mem_cons.mp (hperm.mem_iff.mpr List.mem_cons_self)).resolve_left
          (Ne.symm hab)
        have hamem : a ∈ bs := (List.mem_cons.mp (hperm.mem_iff.mp List.mem_cons_self)).resolve_left
          hab
        obtain ⟨k, hka, hkb⟩ := (haordered.1 b hbmem).antisymm (hbordered.1 a hamem)
        have hclass := hstable k
        rw [List.filter_cons_of_pos (sortsLike_self hka),
          List.filter_cons_of_pos (sortsLike_self hkb)] at hclass
        exact absurd (List.head_eq_of_cons_eq hclass) hab

theorem IsStableSort.eq_iff {entities as bs : List α} (h : o.IsStableSort entities as) :
    o.IsStableSort entities bs ↔ bs = as := by
  constructor
  · intro hbs
    exact hbs.unique h
  · rintro rfl
    exact h

/-- Entities with equal keys are related by `R` in a stable sort as they were before. -/
theorem IsStableSort.pairwise_lex {entities sorted : List α} {R : α → α → Prop}
    (h : o.IsStableSort entities sorted) (hentities : entities.Pairwise R) :
    sorted.Pairwise fun a b => ∃ k l, o.key a = .ok k ∧ o.key b = .ok l ∧
      (o.direction.compareKeys k l = .lt ∨ k = l ∧ R a b) := by
  refine List.pairwise_iff_forall_sublist.mpr ?_
  intro a b hsub
  obtain ⟨k, l, hk, hl, hle⟩ := List.pairwise_iff_forall_sublist.mp h.ordered hsub
  refine ⟨k, l, hk, hl, ?_⟩
  cases hkeys : o.direction.compareKeys k l with
  | lt => exact Or.inl rfl
  | gt =>
    rw [hkeys] at hle
    cases hle
  | eq =>
    cases Std.LawfulEqCmp.eq_of_compare hkeys
    have hclass : (sorted.filter (o.sortsLike k)).Pairwise R := by
      rw [h.stable k]
      exact hentities.filter _
    have hrelated := List.pairwise_iff_forall_sublist.mp (List.pairwise_filter.mp hclass) hsub
    exact Or.inr ⟨rfl, hrelated (sortsLike_self hk) (sortsLike_self hl)⟩

section SortKeyed

variable (d : SortDirection)

theorem isLE_compareKeys_trans (p q r : Value × α) (hpq : (d.compareKeys p.1 q.1).isLE = true)
    (hqr : (d.compareKeys q.1 r.1).isLE = true) : (d.compareKeys p.1 r.1).isLE = true :=
  Std.TransCmp.isLE_trans hpq hqr

theorem isLE_compareKeys_total (p q : Value × α) :
    ((d.compareKeys p.1 q.1).isLE || (d.compareKeys q.1 p.1).isLE) = true :=
  isLE_total d.compareKeys p.1 q.1

variable (pairs : List (Value × α))

theorem sortKeyed_perm : (sortKeyed d pairs).Perm pairs :=
  List.mergeSort_perm pairs _

theorem pairwise_sortKeyed :
    (sortKeyed d pairs).Pairwise fun p q => (d.compareKeys p.1 q.1).isLE = true :=
  List.pairwise_mergeSort (isLE_compareKeys_trans d) (isLE_compareKeys_total d) pairs

theorem filter_sortKeyed {p : Value × α → Bool}
    (h : ∀ a b, p a = true → p b = true → (d.compareKeys a.1 b.1).isLE = true) :
    (sortKeyed d pairs).filter p = pairs.filter p := by
  have hclass : (pairs.filter p).Pairwise fun a b => (d.compareKeys a.1 b.1).isLE = true := by
    refine List.pairwise_of_forall_mem_list ?_
    intro a ha b hb
    exact h a b (List.mem_filter.mp ha).2 (List.mem_filter.mp hb).2
  have hkept : (pairs.filter p).Sublist (sortKeyed d pairs) :=
    List.sublist_mergeSort (isLE_compareKeys_trans d) (isLE_compareKeys_total d) hclass
      List.filter_sublist
  have hsub : (pairs.filter p).Sublist ((sortKeyed d pairs).filter p) := by
    have hfilter := hkept.filter p
    rw [List.filter_filter] at hfilter
    simpa using hfilter
  have hlength : (pairs.filter p).length = ((sortKeyed d pairs).filter p).length :=
    ((sortKeyed_perm d pairs).filter p).length_eq.symm
  exact (hsub.eq_of_length hlength).symm

end SortKeyed

/-- What `sort` gives is a stable sort. -/
theorem isStableSort_of_sort {entities sorted : List α} (h : o.sort entities = .ok sorted) :
    o.IsStableSort entities sorted := by
  obtain ⟨pairs, hpairs, rfl⟩ := map_eq_ok_iff.mp h
  obtain ⟨hentities, hkeys⟩ := keyed_spec hpairs
  have hperm := sortKeyed_perm o.direction pairs
  constructor
  · rw [← hentities]
    exact hperm.map Prod.snd
  · rw [List.pairwise_map]
    refine (pairwise_sortKeyed o.direction pairs).imp_of_mem ?_
    intro p q hp hq hle
    exact ⟨p.1, q.1, hkeys p (hperm.mem_iff.mp hp), hkeys q (hperm.mem_iff.mp hq), hle⟩
  · intro k
    have hlike : ∀ p ∈ pairs, (o.sortsLike k ∘ Prod.snd) p = (p.1.sortCompare k).isEq := by
      intro p hp
      rw [Function.comp_apply, sortsLike, hkeys p hp]
    have hclass : (sortKeyed o.direction pairs).filter (fun p => (p.1.sortCompare k).isEq) =
        pairs.filter fun p => (p.1.sortCompare k).isEq := by
      refine filter_sortKeyed o.direction pairs ?_
      intro a b ha hb
      have hak : a.1 = k := Std.LawfulEqCmp.eq_of_compare (Ordering.isEq_iff_eq_eq.mp ha)
      have hbk : b.1 = k := Std.LawfulEqCmp.eq_of_compare (Ordering.isEq_iff_eq_eq.mp hb)
      rw [hak, hbk]
      exact Std.ReflCmp.isLE_rfl
    rw [← hentities, List.filter_map, List.filter_map, List.filter_congr hlike, ← hclass]
    refine congrArg (List.map Prod.snd) (List.filter_congr ?_)
    intro p hp
    exact hlike p (hperm.mem_iff.mp hp)

/-- If a key cannot be read, `sort` reports the first such failure. -/
theorem sort_of_firstError {entities : List α} {e : EvaluationError}
    (h : firstError? o.key entities = some e) : o.sort entities = .error e := by
  rw [sort, keyed_of_firstError h]
  rfl

/-- If all keys can be read, `sort` gives a stable sort. -/
theorem exists_sort {entities : List α} (h : firstError? o.key entities = none) :
    ∃ sorted, o.sort entities = .ok sorted ∧ o.IsStableSort entities sorted := by
  obtain ⟨pairs, hpairs⟩ := exists_keyed h
  have hsort : o.sort entities = .ok ((sortKeyed o.direction pairs).map Prod.snd) := by
    rw [sort, hpairs]
    rfl
  exact ⟨_, hsort, isStableSort_of_sort hsort⟩

end OrderBy

end Quarry
