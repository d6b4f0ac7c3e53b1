import Quarry.Proofs.Ordering
import Quarry.Proofs.Repository.Circulation

/-!
# The order on the pages of a repository

Sorting by a key leaves open how aggregates with equal keys are sorted. A repository finds aggregates
in the order of their identifiers (`Repository.FindsInOrder`): the map in memory is in this order,
and the documents are in the order of the texts of the identifiers, which is the same. Sorting is
stable, so that in both directions equal keys are in the order of the identifiers. Only one
arrangement is like that, and the pages are cut out of it (`Repository.findPaged_arranged`).
-/

namespace Quarry

/-! ## Arrangements -/

theorem Value.isLE_null_sortCompare (v : Value) : (Value.null.sortCompare v).isLE = true := by
  by_cases hrank : v.rank = 0
  · cases v with
    | null => rfl
    | _ => cases hrank
  · exact Value.isLE_of_rank_lt (Nat.pos_of_ne_zero hrank)

namespace OrderBy

variable {σ ε : Type} {o : OrderBy (Aggregate σ ε)} {found as bs : List (Aggregate σ ε)}

/-- The key of `a` comes before that of `b`, or the keys are equal and the identifier of `a` is the
smaller. -/
def Precedes (o : OrderBy (Aggregate σ ε)) (a b : Aggregate σ ε) : Prop :=
  ∃ k l, o.key a = .ok k ∧ o.key b = .ok l ∧
    (o.direction.Leads k l ∨ k.sortCompare l = .eq ∧ compare a.id b.id = .lt)

/-- All that was `found` is `arranged` by keys and, where these are equal, by identifiers. -/
structure IsArrangement (o : OrderBy (Aggregate σ ε)) (found arranged : List (Aggregate σ ε)) :
    Prop where
  perm : arranged.Perm found
  ordered : arranged.Pairwise o.Precedes

/-- Null comes first upward and last downward. -/
def PutsNullsOutside (o : OrderBy (Aggregate σ ε)) (as : List (Aggregate σ ε)) : Prop :=
  as.Pairwise fun a b =>
    match o.direction with
    | .ascending => o.key b = .ok .null → o.key a = .ok .null
    | .descending => o.key a = .ok .null → o.key b = .ok .null

theorem Precedes.asymm {a b : Aggregate σ ε} (hab : o.Precedes a b) : ¬ o.Precedes b a := by
  obtain ⟨k, l, hk, hl, hab⟩ := hab
  rintro ⟨l', k', hl', hk', hba⟩
  rw [hk] at hk'
  rw [hl] at hl'
  cases hk'
  cases hl'
  rcases hab with hlead | ⟨hkl, hid⟩
  · rcases hba with hlead' | ⟨hlk, -⟩
    · rw [SortDirection.leads_iff] at hlead hlead'
      exact Std.OrientedCmp.not_lt_of_lt hlead hlead'
    · cases Value.eq_of_sortCompare hlk
      exact SortDirection.not_leads_self hlead
  · rcases hba with hlead' | ⟨-, hid'⟩
    · cases Value.eq_of_sortCompare hkl
      exact SortDirection.not_leads_self hlead'
    · exact Std.OrientedCmp.not_lt_of_lt hid hid'

/-- There is no more than one arrangement of what was `found`. -/
theorem IsArrangement.unique (ha : o.IsArrangement found as) (hb : o.IsArrangement found bs) :
    as = bs := by
  refine List.Perm.eq_of_pairwise ?_ ha.ordered hb.ordered (ha.perm.trans hb.perm.symm)
  intro a b _ _ hab hba
  exact absurd hba hab.asymm

theorem IsArrangement.eq_iff (h : o.IsArrangement found as) :
    o.IsArrangement found bs ↔ bs = as := by
  constructor
  · intro hbs
    exact hbs.unique h
  · rintro rfl
    exact h

/-- In an arrangement nulls are outside, as nothing sorts before a null. -/
theorem IsArrangement.putsNullsOutside (h : o.IsArrangement found as) : o.PutsNullsOutside as := by
  refine h.ordered.imp ?_
  intro a b ⟨k, l, hk, hl, hkeys⟩
  cases hdirection : o.direction with
  | ascending =>
    intro hb
    cases hl.symm.trans hb
    rcases hkeys with hlead | ⟨heq, -⟩
    · rw [hdirection] at hlead
      have hlt : k.sortCompare .null = .lt := hlead
      exact absurd (Value.isLE_null_sortCompare k) (Std.OrientedCmp.not_isLE_of_lt hlt)
    · rw [hk, Value.eq_of_sortCompare heq]
  | descending =>
    intro ha
    cases hk.symm.trans ha
    rcases hkeys with hlead | ⟨heq, -⟩
    · rw [hdirection] at hlead
      have hgt : Value.null.sortCompare l = .gt := hlead
      have hle := Value.isLE_null_sortCompare l
      rw [hgt] at hle
      cases hle
    · rw [hl, Value.eq_of_sortCompare heq]

/-- Stably sorted, aggregates in the order of their identifiers make up an arrangement. -/
theorem IsStableSort.isArrangement (h : o.IsStableSort found as)
    (hfound : found.Pairwise fun a b => compare a.id b.id = .lt) : o.IsArrangement found as := by
  refine ⟨h.perm, (h.pairwise_lex hfound).imp ?_⟩
  rintro a b ⟨k, l, hk, hl, hlt | ⟨rfl, hid⟩⟩
  · exact ⟨k, l, hk, hl, Or.inl (SortDirection.leads_iff.mpr hlt)⟩
  · exact ⟨k, k, hk, hl, Or.inr ⟨Std.ReflCmp.compare_self, hid⟩⟩

end OrderBy

/-! ## Finding in order -/

namespace Repository

variable {ρ σ ε : Type} [Repository ρ σ ε]

/-- Whatever is found in `r` is in the ascending order of the identifiers. -/
def FindsInOrder (r : ρ) : Prop :=
  ∀ s found, find r s = .ok found → found.Pairwise fun a b => compare a.id b.id = .lt

/-- The pages of `r` are those of the arrangement of what is found. If there are no keys to arrange
it by, or nothing can be found, that is what is reported. -/
def PagesAreArranged (r : ρ) : Prop :=
  ∀ p : PagedSpecification (Aggregate σ ε),
    (∀ e, find r p.specification = .error e → findPaged r p = .error e) ∧
    ∀ found, find r p.specification = .ok found →
      (∀ e, firstError? p.order.key found = some e → findPaged r p = .error (.evaluation e)) ∧
      (firstError? p.order.key found = none →
        ∃ arranged, (∀ as, p.order.IsArrangement found as ↔ as = arranged) ∧
          p.order.PutsNullsOutside arranged ∧
          findPaged r p = .ok ((arranged.drop (p.page.index * p.page.size)).take p.page.size))

/-- Sorting is stable, so what is found in order is paged as it is arranged. -/
theorem FindsInOrder.pagesAreArranged {r : ρ} (h : FindsInOrder r) : PagesAreArranged r := by
  intro p
  constructor
  · intro e he
    rw [findPaged, he]
  · intro found hfound
    have hpaged : findPaged r p = ((p.order.sort found).map p.range.cut).mapError .evaluation := by
      rw [findPaged, hfound]
      rfl
    constructor
    · intro e he
      rw [hpaged, OrderBy.sort_of_firstError he]
      rfl
    · intro hkeys
      obtain ⟨sorted, hsort, hstable⟩ := OrderBy.exists_sort hkeys
      have harranged := hstable.isArrangement (h p.specification found hfound)
      refine ⟨sorted, fun _ => harranged.eq_iff, harranged.putsNullsOutside, ?_⟩
      rw [hpaged, hsort]
      rfl

end Repository

namespace MemoryRepository

variable {σ ε : Type} [AggregateKind σ] [Record (Aggregate σ ε)]

/-- The aggregates of a repository in memory are listed by identifiers. -/
theorem IsKeyed.findsInOrder {r : MemoryRepository σ ε} (h : r.IsKeyed) :
    Repository.FindsInOrder r := by
  intro s found hfind
  have hselect : s.select r.aggregates = .ok found := mapError_eq_ok_iff.mp hfind
  have hall : r.aggregates.Pairwise fun a b => compare a.id b.id = .lt :=
    List.pairwise_map.mp h.pairwise_ids
  exact hall.sublist (Formula.sublist_of_select hselect)

end MemoryRepository

namespace DocumentRepository

variable {σ ε : Type} [AggregateKind σ] [JsonCodec (Aggregate σ ε)] [KeepsIdentifier σ ε]

theorem IsFiled.map_render_of_readAll {r : DocumentRepository σ ε} (h : r.IsFiled)
    {entries : List (String × StoredDocument)} (hsub : entries ⊆ r.stored.entries)
    {as : List (Aggregate σ ε)} (hread : readAll (entries.map Prod.snd) = .ok as) :
    as.map (fun a => a.id.render) = entries.map Prod.fst := by
  induction entries generalizing as with
  | nil =>
    cases hread
    rfl
  | cons e rest ih =>
    rw [List.map_cons, readAll] at hread
    split at hread
    · next a ha =>
      obtain ⟨others, hothers, rfl⟩ := map_eq_ok_iff.mp hread
      have hrest := ih (fun f hf => hsub (List.mem_cons_of_mem e hf)) hothers
      rw [List.map_cons, List.map_cons, hrest, h.render_of_read (hsub List.mem_cons_self) ha]
    · cases hread

/-- Documents that are filed under identifiers are read in the order of these, some of them left out
or not. -/
theorem IsFiled.pairwise_of_readAll {r : DocumentRepository σ ε} (h : r.IsFiled)
    {ds : List StoredDocument} (hsub : ds.Sublist r.documents) {as : List (Aggregate σ ε)}
    (hread : readAll ds = .ok as) : as.Pairwise fun a b => compare a.id b.id = .lt := by
  have hentries : ds.Sublist (r.stored.entries.map Prod.snd) := hsub
  obtain ⟨entries, hsubentries, rfl⟩ := List.sublist_map_iff.mp hentries
  have hkeys := h.map_render_of_readAll hsubentries.subset hread
  have hascending : (entries.map Prod.fst).Pairwise fun k l => compare k l = .lt :=
    List.pairwise_map.mpr (r.stored.ascending.sublist hsubentries)
  rw [← hkeys, List.pairwise_map] at hascending
  refine hascending.imp ?_
  intro a b hlt
  rw [← EntityId.compare_render]
  exact hlt

/-- The documents of a filed repository are listed by the texts of identifiers. -/
theorem IsFiled.findsInOrder [Record (Aggregate σ ε)] {r : DocumentRepository σ ε}
    (h : r.IsFiled) : Repository.FindsInOrder r := by
  intro s found hfind
  have hfind : r.find s = .ok found := hfind
  unfold find at hfind
  split at hfind
  · split at hfind
    · next documents hselect =>
      exact h.pairwise_of_readAll (Formula.sublist_of_select hselect) hfind
    · cases hfind
  · split at hfind
    · next all hall =>
      have hselect : s.select all = .ok found := mapError_eq_ok_iff.mp hfind
      exact (h.pairwise_of_readAll (List.Sublist.refl _) hall).sublist
        (Formula.sublist_of_select hselect)
    · cases hfind

end DocumentRepository

/-! ## Both kinds of repositories -/

namespace Repository

variable {σ ε : Type} [AggregateKind σ] [Record (Aggregate σ ε)] [JsonCodec (Aggregate σ ε)]
  [KeepsIdentifier σ ε]

/-- In memory and in a store of documents `PagesAreArranged`, whatever writes have led to `r`. -/
theorem findPaged_arranged :
    (∀ r : MemoryRepository σ ε, r.Reachable → PagesAreArranged r) ∧
      ∀ r : DocumentRepository σ ε, r.Reachable → PagesAreArranged r := by
  constructor
  · intro r hr
    exact (MemoryRepository.IsKeyed.of_reachable hr).findsInOrder.pagesAreArranged
  · intro r hr
    exact (DocumentRepository.IsFiled.of_reachable hr).findsInOrder.pagesAreArranged

/-- Three customers, added in the descending order of their identifiers, and sorted downward by the
zip code that only one of them has. -/
theorem findPaged_arranged_customers :
    let ada : Customer := ⟨⟨⟨7, by decide⟩⟩, 1, .blank, .empty⟩
    let bob : Customer := ⟨⟨⟨8, by decide⟩⟩, 1, { CustomerProfile.blank with zipCode := "9" }, .empty⟩
    let cai : Customer := ⟨⟨⟨9, by decide⟩⟩, 1, .blank, .empty⟩
    let m : MemoryRepository CustomerProfile CustomerEvent :=
      (((MemoryRepository.empty.add cai).2.add bob).2.add ada).2
    let d : DocumentRepository CustomerProfile CustomerEvent :=
      (((DocumentRepository.empty.add cai).2.add bob).2.add ada).2
    let p : PagedSpecification Customer :=
      ⟨.all, .byField "zip_code" .descending, ⟨0, 2, by decide, by decide⟩⟩
    (m.Reachable ∧ d.Reachable) ∧ findPaged m p = .ok [bob, ada] ∧ PagesAreArranged d := by
  intro ada bob cai m d p
  have hm : m.Reachable := .add ada (.add bob (.add cai .empty))
  have hd : d.Reachable := .add ada (.add bob (.add cai .empty))
  have hfound : find m p.specification = .ok [ada, bob, cai] := rfl
  have harrangement : p.order.IsArrangement [ada, bob, cai] [bob, ada, cai] := by
    have hbobada : p.order.Precedes bob ada := ⟨.text "9", .null, rfl, rfl, Or.inl rfl⟩
    have hbobcai : p.order.Precedes bob cai := ⟨.text "9", .null, rfl, rfl, Or.inl rfl⟩
    have hadacai : p.order.Precedes ada cai := ⟨.null, .null, rfl, rfl, Or.inr ⟨rfl, rfl⟩⟩
    refine ⟨.swap ada bob [cai], ?_⟩
    simp [hbobada, hbobcai, hadacai]
  obtain ⟨arranged, hunique, -, hpaged⟩ := (findPaged_arranged.1 m hm p).2 _ hfound |>.2 rfl
  rw [← (hunique _).mp harrangement] at hpaged
  exact ⟨⟨hm, hd⟩, hpaged, findPaged_arranged.2 d hd⟩

end Repository

end Quarry
