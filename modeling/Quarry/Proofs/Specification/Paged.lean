import Quarry.Proofs.Ordering
import Quarry.Proofs.Page
import Quarry.Proofs.Specification
import Quarry.Specification.Paged

/-!
# Page after page

Whoever follows a query from its first page to the next ones gets the entities that satisfy the
specification, stably sorted, piece by piece: none is left out, none comes twice, and nothing comes
after the last one (`PagedSpecification.pages_cover`). Which pages there are is a matter of numbers:
the number of entities before a page has to fit in 64 bits (`PagedSpecification.length_pages_eq_iff`).
-/

namespace Quarry

namespace PagedSpecification

variable {α : Type} {p q : PagedSpecification α}

/-! ## The pages of a query -/

/-- The queries `p` and `q` differ in no more than which page they are for. -/
structure SameQuery (p q : PagedSpecification α) : Prop where
  specification : q.specification = p.specification
  order : q.order = p.order
  size : q.page.size = p.page.size

theorem SameQuery.refl (p : PagedSpecification α) : p.SameQuery p :=
  ⟨rfl, rfl, rfl⟩

theorem SameQuery.trans {r : PagedSpecification α} (hpq : p.SameQuery q) (hqr : q.SameQuery r) :
    p.SameQuery r :=
  ⟨hqr.specification.trans hpq.specification, hqr.order.trans hpq.order, hqr.size.trans hpq.size⟩

/-- The query for the next page is for the page after that of `p`. -/
theorem nextPage?_spec (h : p.nextPage? = some q) :
    p.SameQuery q ∧ q.page.index = p.page.index + 1 := by
  obtain ⟨page, hpage, rfl⟩ := Option.map_eq_some_iff.mp h
  obtain ⟨-, hindex, hsize⟩ := Page.next?_eq_some_iff.mp hpage
  exact ⟨⟨rfl, rfl, hsize⟩, hindex⟩

theorem nextPage?_eq_none_iff :
    p.nextPage? = none ↔ 2 ^ 64 ≤ (p.page.index + 1) * p.page.size := by
  rw [nextPage?, Option.map_eq_none_iff, Page.next?_eq_none_iff]

theorem sameQuery_of_mem_pages {n : Nat} (h : q ∈ p.pages n) : p.SameQuery q := by
  induction n generalizing p with
  | zero => cases h
  | succ n ih =>
    rw [pages] at h
    rcases List.mem_cons.mp h with rfl | h
    · exact .refl q
    · split at h
      · next next hnext => exact (nextPage?_spec hnext).1.trans (ih h)
      · cases h

theorem map_index_pages (p : PagedSpecification α) (n : Nat) :
    (p.pages n).map (fun q => q.page.index) = List.range' p.page.index (p.pages n).length := by
  induction n generalizing p with
  | zero => rfl
  | succ n ih =>
    rw [pages]
    split
    · next next hnext =>
      rw [List.map_cons, ih, (nextPage?_spec hnext).2]
      rfl
    · rfl

/-- A page exists just if the number of entities before it fits in 64 bits, so that `p.pages n` are
`n` pages just if this is so of all of them. -/
theorem length_pages_eq_iff {n : Nat} :
    (p.pages n).length = n ↔ ∀ i < n, (p.page.index + i) * p.page.size < 2 ^ 64 := by
  induction n generalizing p with
  | zero => simp [pages]
  | succ n ih =>
    have hshift : (∀ i < n + 1, (p.page.index + i) * p.page.size < 2 ^ 64) ↔
        ∀ i < n, (p.page.index + 1 + i) * p.page.size < 2 ^ 64 := by
      rw [Nat.forall_lt_succ_left]
      simp only [Nat.add_zero, p.page.skip_lt, true_and]
      simp only [Nat.add_assoc, Nat.add_comm 1]
    rw [hshift, pages]
    split
    · next next hnext =>
      obtain ⟨hsame, hindex⟩ := nextPage?_spec hnext
      rw [List.length_cons, Nat.add_right_cancel_iff, ih, hindex, hsame.size]
    · next hnext =>
      rw [nextPage?_eq_none_iff] at hnext
      cases n with
      | zero => simp
      | succ n =>
        refine iff_of_false (by simp) ?_
        intro hall
        have hnone := hall 0 (Nat.zero_lt_succ n)
        rw [Nat.add_zero] at hnone
        omega

theorem le_index_of_mem_drop {m n : Nat} (h : q ∈ (p.pages m).drop n) :
    p.page.index + n ≤ q.page.index := by
  have hmem : q.page.index ∈ ((p.pages m).map fun q => q.page.index).drop n := by
    rw [← List.map_drop]
    exact List.mem_map_of_mem h
  rw [map_index_pages, List.drop_range', List.mem_range'_1] at hmem
  omega

/-! ## What is on the pages -/

/-- The windows of a list, one after the other, are its beginning. -/
theorem flatten_windows (sorted : List α) (size n : Nat) :
    ((List.range n).map fun i => (sorted.drop (i * size)).take size).flatten =
      sorted.take (n * size) := by
  induction n with
  | zero => simp
  | succ n ih =>
    rw [List.range_succ, List.map_append, List.flatten_append, ih, Nat.succ_mul, List.take_add]
    simp

theorem SameQuery.cut_eq (h : p.SameQuery q) (sorted : List α) :
    q.range.cut sorted = (sorted.drop (q.page.index * p.page.size)).take p.page.size := by
  rw [← h.size]
  rfl

/-- From the first page on, `n` pages are the beginning of the list. -/
theorem flatten_pages (hfirst : p.page.index = 0) {n : Nat} (hn : (p.pages n).length = n)
    (sorted : List α) :
    ((p.pages n).map fun q => q.range.cut sorted).flatten = sorted.take (n * p.page.size) := by
  have hindex : (p.pages n).map (fun q => q.page.index) = List.range n := by
    rw [map_index_pages, hfirst, hn, List.range_eq_range']
  have hwindows : (p.pages n).map (fun q => q.range.cut sorted) =
      (List.range n).map fun i => (sorted.drop (i * p.page.size)).take p.page.size := by
    rw [← hindex, List.map_map]
    exact List.map_congr_left fun q hq => (sameQuery_of_mem_pages hq).cut_eq sorted
  rw [hwindows, flatten_windows]

/-- Nothing is left for the pages after those that have room for all of the list. -/
theorem cut_eq_nil_of_mem_drop (hfirst : p.page.index = 0) {m n : Nat}
    (hq : q ∈ (p.pages m).drop n) {sorted : List α} (hall : sorted.length ≤ n * p.page.size) :
    q.range.cut sorted = [] := by
  have hindex : p.page.index + n ≤ q.page.index := le_index_of_mem_drop hq
  rw [hfirst, Nat.zero_add] at hindex
  have hskip : sorted.length ≤ q.page.index * p.page.size :=
    Nat.le_trans hall (Nat.mul_le_mul_right _ hindex)
  rw [(sameQuery_of_mem_pages (List.mem_of_mem_drop hq)).cut_eq, List.drop_of_length_le hskip,
    List.take_nil]

section Outcomes

variable [Record α] {items : List α}

theorem SameQuery.applyTo_of_error {e : EvaluationError} (h : p.SameQuery q)
    (he : p.specification.select items = .error e) : q.applyTo items = .error e := by
  rw [applyTo, h.specification, he]

theorem SameQuery.applyTo_of_select {matching : List α} (h : p.SameQuery q)
    (hselect : p.specification.select items = .ok matching) :
    q.applyTo items = (p.order.sort matching).map q.range.cut := by
  rw [applyTo, h.specification, hselect]
  show q.window matching = _
  rw [window, h.order]

/-- The entities that satisfy the specification of `p`, in the order in which they come. -/
def matching (p : PagedSpecification α) (items : List α) : List α :=
  items.filter p.specification.accepts

/-- Page after page, from the first one, the results of `p.pages` make up the beginning of the
stable sort of the entities that satisfy the specification. If it is not known of an entity whether
it does, or if a key cannot be read, that is what every page reports. -/
theorem pages_cover (p : PagedSpecification α) (hfirst : p.page.index = 0) (items : List α) :
    (∀ e, firstError? p.specification.isSatisfiedBy items = some e →
      ∀ n, ∀ q ∈ p.pages n, q.applyTo items = .error e) ∧
    (firstError? p.specification.isSatisfiedBy items = none →
      (∀ e, firstError? p.order.key (p.matching items) = some e →
        ∀ n, ∀ q ∈ p.pages n, q.applyTo items = .error e) ∧
      (firstError? p.order.key (p.matching items) = none →
        ∃ sorted, (∀ as, p.order.IsStableSort (p.matching items) as ↔ as = sorted) ∧
          ∀ n, (p.pages n).length = n →
            ∃ parts, (p.pages n).mapM (fun q => q.applyTo items) = .ok parts ∧
              parts.flatten = sorted.take (n * p.page.size) ∧
              ((p.matching items).length ≤ n * p.page.size →
                parts.flatten.Perm (p.matching items) ∧
                  ∀ m, ∀ q ∈ (p.pages m).drop n, q.applyTo items = .ok []))) := by
  constructor
  · intro e he n q hq
    exact (sameQuery_of_mem_pages hq).applyTo_of_error (Specification.select_of_firstError he)
  · intro hselectable
    have hselect : p.specification.select items = .ok (p.matching items) :=
      Specification.select_of_no_error hselectable
    constructor
    · intro e he n q hq
      rw [(sameQuery_of_mem_pages hq).applyTo_of_select hselect, OrderBy.sort_of_firstError he]
      rfl
    · intro hreadable
      obtain ⟨sorted, hsort, hstable⟩ := OrderBy.exists_sort hreadable
      have happly {n : Nat} {q : PagedSpecification α} (hq : q ∈ p.pages n) :
          q.applyTo items = .ok (q.range.cut sorted) := by
        rw [(sameQuery_of_mem_pages hq).applyTo_of_select hselect, hsort]
        rfl
      refine ⟨sorted, fun _ => hstable.eq_iff, ?_⟩
      intro n hn
      have hjoined := flatten_pages hfirst hn sorted
      refine ⟨_, mapM_eq_ok_map fun q hq => happly hq, hjoined, ?_⟩
      intro hall
      have hlength : sorted.length ≤ n * p.page.size := by
        rw [hstable.perm.length_eq]
        exact hall
      constructor
      · rw [hjoined, List.take_of_length_le hlength]
        exact hstable.perm
      · intro m q hq
        rw [happly (List.mem_of_mem_drop hq), cut_eq_nil_of_mem_drop hfirst hq hlength]

/-- Two pages of two entities, downward by a field in which three of them are equal. -/
theorem pages_cover_ties :
    let items : List (List (String × Value)) :=
      [[("name", .text "Ada"), ("zip", .int 2)], [("name", .text "Bob"), ("zip", .int 1)],
        [("name", .text "Cai"), ("zip", .int 2)], [("name", .text "Dov"), ("zip", .int 2)],
        [("name", .text "Eve"), ("zip", .int 3)]]
    let p : PagedSpecification (List (String × Value)) :=
      ⟨.not (.leaf (.criterion (.binary .eq "name" (.text "Bob")) rfl)),
        .byField "zip" .descending, ⟨0, 2, by decide, by decide⟩⟩
    (p.page.index = 0 ∧ (p.pages 2).length = 2) ∧
      ∃ sorted, p.order.IsStableSort (p.matching items) sorted ∧
        ∃ parts, (p.pages 2).mapM (fun q => q.applyTo items) = .ok parts ∧
          parts.flatten = sorted.take 4 ∧ parts.flatten.Perm (p.matching items) := by
  intro items p
  have hfirst : p.page.index = 0 := rfl
  have hlength : (p.pages 2).length = 2 := rfl
  obtain ⟨sorted, hstable, hpages⟩ := ((pages_cover p hfirst items).2 rfl).2 rfl
  obtain ⟨parts, hparts, hjoined, hcover⟩ := hpages 2 hlength
  exact ⟨⟨hfirst, hlength⟩, sorted, (hstable sorted).mpr rfl, parts, hparts, hjoined,
    (hcover (by decide)).1⟩

end Outcomes

end PagedSpecification

end Quarry
