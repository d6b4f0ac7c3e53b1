import Quarry.Proofs.Customer.Queries
import Quarry.Proofs.Repository.InPlace
import Quarry.Proofs.Repository.Versions

/-!
# Reading back what was written

An aggregate that a repository has accepted should be there for whoever asks for it, and it should
not be in the way of queries about others. In memory it always is so. A repository of documents
accepts whatever can be written down, and a customer is read from its document just if its score is
a finite number and it joined on a day of the calendar (`Customer.readsBack_iff_isReadable`). A
customer whose score is no finite number is accepted, too. From then on it cannot be had, and no
query succeeds that looks at all customers.
-/

namespace Quarry

/-- The specification `s` excludes nothing, or it cannot be tested without every aggregate being
read. -/
def Specification.ReadsAll {α : Type} (s : Specification α) : Prop :=
  s = .all ∨ s.HasPredicate

namespace Repository

variable {ρ σ ε : Type} [Repository ρ σ ε]

/-- The repository `r` accepts the aggregate `a`, which the caller then has as `b`. -/
def Stores (r : ρ) (a b : Aggregate σ ε) (r' : ρ) : Prop :=
  add r a = (.ok b, r') ∨ update r a = (.ok b, r')

variable [AggregateKind σ] [Record (Aggregate σ ε)]

/-- The aggregate `b` is given out as it was written, and no query fails because of it: one that has
a result for `b` and would succeed without it succeeds. -/
structure ReadsBack (r : ρ) (b : Aggregate σ ε) : Prop where
  get : get r b.id = .ok (some b.clearEvents)
  load : load r b.id = .ok b.clearEvents
  find {s : Specification (Aggregate σ ε)} (hs : s.ReadsAll)
    (htest : ∃ v, s.isSatisfiedBy b.clearEvents = .ok v)
    (hothers : ∃ found, find (remove r b.id .any).2 s = .ok found) :
    ∃ found, find r s = .ok found

/-- What there is under `id` cannot be read, and neither can anything that is found together with
it. -/
structure IsUnreadable (r : ρ) (id : EntityId) : Prop where
  get : ∃ cause, get r id = .error (.serialization cause)
  load : ∃ cause, load r id = .error (.serialization cause)
  find {s : Specification (Aggregate σ ε)} (hs : s.ReadsAll) :
    ∃ cause, find r s = .error (.serialization cause)

end Repository

open Repository

variable {ρ σ ε : Type}

/-- What was accepted is under its own key, with the version that the caller has got. -/
theorem Holdings.exists_of_stores [Repository ρ σ ε] {H : Holdings ρ σ ε} {r r' : ρ}
    {a b : Aggregate σ ε} (heffect : ∀ call, H.Effect call a r (call.answer r a))
    (h : Stores r a b r') :
    b = a.atVersion b.version ∧ ∃ e, H.entry? r' (H.key b.id) = some e ∧ H.IsOf e b := by
  rcases h with hadd | hupdate
  · have hwritten := heffect .add
    rw [show WriteCall.add.answer r a = (.ok b, r') from hadd] at hwritten
    cases hwritten with
    | accepted _ hown => exact ⟨rfl, hown⟩
  · have hwritten := heffect .update
    rw [show WriteCall.update.answer r a = (.ok b, r') from hupdate] at hwritten
    cases hwritten with
    | accepted _ hown => exact ⟨rfl, hown⟩

/-! ## In memory -/

namespace MemoryRepository

variable [AggregateKind σ] {r r' : MemoryRepository σ ε}

theorem remove_any_of_find? {id : EntityId} {a : Aggregate σ ε} (h : r.stored.find? id = some a) :
    (r.remove id .any).2.stored = r.stored.erase id := by
  rcases r.remove_cases id .any with ⟨hnone, -⟩ | ⟨_, -, hrefused, -⟩ | ⟨_, -, -, hremove⟩
  · cases h.symm.trans hnone
  · cases hrefused
  · rw [hremove]

variable [Record (Aggregate σ ε)] {s : Specification (Aggregate σ ε)}

theorem exists_find_iff : (∃ found, Repository.find r s = .ok found) ↔
    ∀ a ∈ r.aggregates, ∃ v, s.isSatisfiedBy a = .ok v := by
  rw [← Specification.exists_select_iff]
  exact exists_congr fun found => mapError_eq_ok_iff

/-- In memory, what was accepted is given out without its pending events. -/
theorem readsBack_of_stores {a b : Aggregate σ ε} (h : Stores r a b r') :
    b = a.atVersion b.version ∧ ReadsBack r' b := by
  obtain ⟨hb, e, he, rfl⟩ := holdings.exists_of_stores (effect_answer · r a) h
  have hfind : r'.stored.find? b.id = some b.clearEvents := he
  have hget : Repository.get r' b.id = .ok (some b.clearEvents) := congrArg Except.ok hfind
  refine ⟨hb, hget, ?_, ?_⟩
  · rw [load, hget]
  · intro s hs htest hothers
    rw [exists_find_iff] at hothers ⊢
    intro c hc
    rcases SortedMap.mem_values_cases hfind hc with rfl | hc
    · exact htest
    · refine hothers c ?_
      rw [← remove_any_of_find? hfind] at hc
      exact hc

end MemoryRepository

/-! ## In stores of documents -/

namespace DocumentRepository

variable [JsonCodec (Aggregate σ ε)]

variable [AggregateKind σ] {r : DocumentRepository σ ε} {id : EntityId} {d : StoredDocument}

omit [JsonCodec (Aggregate σ ε)] in
theorem remove_any_of_find? (hd : r.stored.find? id.render = some d) :
    (r.remove id .any).2.stored = r.stored.erase id.render := by
  rcases r.remove_cases id .any with ⟨hnone, -⟩ | ⟨_, -, hrefused, -⟩ | ⟨_, -, -, hremove⟩
  · cases hd.symm.trans hnone
  · cases hrefused
  · rw [hremove]
    exact stored_withStored r _

theorem get_of_find? (hd : r.stored.find? id.render = some d) : r.get id = (read d).map some := by
  unfold DocumentRepository.get
  rw [← stored, hd]

variable [Record (Aggregate σ ε)] {s : Specification (Aggregate σ ε)}

/-- For a specification that `ReadsAll`, all documents are read first. -/
theorem find_of_readsAll (hs : s.ReadsAll) :
    r.find s = readAll r.documents >>= fun as => (s.select as).mapError .evaluation := by
  rcases hs with rfl | hpredicate
  · have hselect (as : List (Aggregate σ ε)) : Specification.all.select as = .ok as :=
      Formula.select_true _ as
    rw [find_of_filter (f := .const true) rfl, Filter.select, Formula.select_true]
    simp only [hselect]
    cases (readAll r.documents : Except _ (List (Aggregate σ ε))) with
    | error e => rfl
    | ok as => rfl
  · unfold find
    rw [hpredicate.toFilter?]
    cases (readAll r.documents : Except _ (List (Aggregate σ ε))) with
    | error e => rfl
    | ok as => rfl

theorem exists_find_iff (hs : s.ReadsAll) : (∃ found, r.find s = .ok found) ↔
    ∀ d ∈ r.documents, ∃ a, read d = .ok a ∧ ∃ v, s.isSatisfiedBy a = .ok v := by
  rw [find_of_readsAll hs]
  rcases readAll_cases (σ := σ) (ε := ε) r.documents with
    ⟨as, hall, hmem⟩ | ⟨d, hd, cause, hread, hall⟩
  · have hselect : (∃ found, (s.select as).mapError RepositoryError.evaluation = .ok found) ↔
        ∀ a ∈ as, ∃ v, s.isSatisfiedBy a = .ok v := by
      rw [← Specification.exists_select_iff]
      exact exists_congr fun found => mapError_eq_ok_iff
    rw [hall]
    refine hselect.trans ⟨?_, ?_⟩
    · intro h d hd
      obtain ⟨a, ha, hread⟩ := hmem d hd
      exact ⟨a, hread, h a ha⟩
    · intro h a ha
      obtain ⟨d, hd, hread⟩ := exists_of_readAll hall ha
      obtain ⟨b, hb, htest⟩ := h d hd
      cases hread.symm.trans hb
      exact htest
  · rw [hall]
    constructor
    · rintro ⟨found, hfound⟩
      cases hfound
    · intro h
      obtain ⟨a, ha, -⟩ := h d hd
      cases hread.symm.trans ha

/-- A document that is read as the aggregate that was written makes it read back. -/
theorem readsBack_of_read {b : Aggregate σ ε} (hd : r.stored.find? b.id.render = some d)
    (hread : read d = .ok b.clearEvents) : ReadsBack r b := by
  have hget : Repository.get r b.id = .ok (some b.clearEvents) := by
    refine (get_of_find? hd).trans ?_
    rw [hread]
    rfl
  refine ⟨hget, ?_, ?_⟩
  · rw [load, hget]
  · intro s hs htest hothers
    have hrest := (exists_find_iff hs).mp hothers
    refine (exists_find_iff hs).mpr ?_
    intro d' hd'
    rcases SortedMap.mem_values_cases hd hd' with rfl | hd'
    · exact ⟨b.clearEvents, hread, htest⟩
    · refine hrest d' ?_
      rw [← remove_any_of_find? hd] at hd'
      exact hd'

/-- A document that cannot be read makes its identifier unreadable. -/
theorem isUnreadable_of_read (hd : r.stored.find? id.render = some d) {e : RepositoryError}
    (hread : (read d : Except _ (Aggregate σ ε)) = .error e) : IsUnreadable r id := by
  obtain ⟨cause, rfl⟩ := serialization_of_read hread
  have hget : Repository.get r id = .error (.serialization cause) := by
    refine (get_of_find? hd).trans ?_
    rw [hread]
    rfl
  refine ⟨⟨cause, hget⟩, ⟨cause, ?_⟩, ?_⟩
  · rw [load, hget]
  · intro s hs
    have hmem : d ∈ r.documents := List.mem_map.mpr ⟨_, SortedEntries.mem_of_find? hd, rfl⟩
    rcases readAll_cases (σ := σ) (ε := ε) r.documents with ⟨as, -, hall⟩ | ⟨_, -, cause, -, hall⟩
    · obtain ⟨a, -, ha⟩ := hall d hmem
      cases hread.symm.trans ha
    · refine ⟨cause, (find_of_readsAll hs).trans ?_⟩
      rw [hall]
      rfl

end DocumentRepository

/-! ## Customers -/

namespace Customer

open DocumentRepository

variable {r r' : DocumentRepository CustomerProfile CustomerEvent} {c b : Customer}

/-- What was written is stored as a document of the customer `b`. -/
theorem exists_document_of_stores (h : Stores r c b r') :
    b = c.atVersion b.version ∧
      ∃ d, r'.stored.find? b.id.render = some d ∧ documentOf b = .ok d := by
  obtain ⟨hb, d, hd, hdocument⟩ :=
    DocumentRepository.holdings.exists_of_stores (effect_answer · r c) h
  exact ⟨hb, d, hd, hdocument⟩

/-- A customer that is read back is readable, since its document can be read and gives all of it. -/
theorem isReadable_of_readsBack (h : Stores r c b r') (hback : ReadsBack r' b) : b.IsReadable := by
  obtain ⟨-, d, hd, hdocument⟩ := exists_document_of_stores h
  have hget : (read d).map some = .ok (some b.clearEvents) :=
    (get_of_find? hd).symm.trans hback.get
  obtain ⟨read, hread, heq⟩ := map_eq_ok_iff.mp hget
  cases heq
  constructor
  case score =>
    cases hscore : b.state.score.isFinite with
    | true => rfl
    | false =>
      obtain ⟨e, he⟩ := read_documentOf_of_not_isFinite hdocument hscore
      cases hread.symm.trans he
  case joinedAt =>
    intro t ht
    unfold DocumentRepository.read at hread
    split at hread
    · next found hfound =>
      have hsame : found.atVersion d.version = b.clearEvents := Except.ok.inj hread
      have hstate : found.state = b.state := (congrArg Aggregate.state hsame).trans rfl
      rw [← hstate] at ht
      exact isDayInRange_of_decode hfound ht
    · cases hread

theorem readsBack_of_isReadable (h : Stores r c b r') (hb : b.IsReadable) : ReadsBack r' b := by
  obtain ⟨-, d, hd, hdocument⟩ := exists_document_of_stores h
  exact readsBack_of_read hd (read_documentOf hdocument hb)

/-- A customer whose score is no finite number is unreadable once it is stored. -/
theorem isUnreadable_of_not_isFinite (h : Stores r c b r')
    (hscore : b.state.score.isFinite = false) : IsUnreadable r' b.id := by
  obtain ⟨-, d, hd, hdocument⟩ := exists_document_of_stores h
  obtain ⟨e, he⟩ := read_documentOf_of_not_isFinite hdocument hscore
  exact isUnreadable_of_read hd he

/-- In memory a customer is always read back. In a store of documents it is read back just if it is
readable, and with a score that is no finite number it makes all else unreadable that is read
together with it. -/
theorem readsBack_iff_isReadable (c b : Customer) :
    (∀ r r' : MemoryRepository CustomerProfile CustomerEvent, Stores r c b r' →
      b = c.atVersion b.version ∧ ReadsBack r' b) ∧
    ∀ r r' : DocumentRepository CustomerProfile CustomerEvent, Stores r c b r' →
      b = c.atVersion b.version ∧ (ReadsBack r' b ↔ c.IsReadable) ∧
        (c.state.score.isFinite = false → IsUnreadable r' c.id) := by
  refine ⟨fun r r' h => MemoryRepository.readsBack_of_stores h, ?_⟩
  intro r r' h
  obtain ⟨hb, -⟩ := exists_document_of_stores h
  have hid : b.id = c.id := (congrArg Aggregate.id hb).trans rfl
  have hstate : b.state = c.state := (congrArg Aggregate.state hb).trans rfl
  have hreadable : b.IsReadable ↔ c.IsReadable := by
    constructor <;> intro hr
    · exact ⟨hstate ▸ hr.score, hstate ▸ hr.joinedAt⟩
    · exact ⟨hstate ▸ hr.score, hstate ▸ hr.joinedAt⟩
  refine ⟨hb, ?_, ?_⟩
  · rw [← hreadable]
    exact ⟨isReadable_of_readsBack h, readsBack_of_isReadable h⟩
  · intro hscore
    rw [← hid]
    rw [← hstate] at hscore
    exact isUnreadable_of_not_isFinite h hscore

/-! ## A score without bounds -/

/-- A customer about whom nothing is known but that the score has no bounds. -/
def unbounded : Customer :=
  let score := Binary64.ofMagnitude false Binary64.infinityMagnitude
  ⟨unknown.id, 0, { CustomerProfile.blank with score }, .empty⟩

theorem not_isFinite_unbounded : unbounded.state.score.isFinite = false := by
  decide

/-- The store without collections accepts any customer `c` that can be written down. -/
theorem stores_of_empty (h : Note.isConfidential c.state.note = false) :
    Stores DocumentRepository.empty c (c.atVersion 1) (DocumentRepository.empty.add c).2 := by
  obtain ⟨d, hd⟩ := exists_documentOf h 1
  rcases DocumentRepository.empty.add_cases c with
    ⟨e, he, -⟩ | ⟨_, _, -, hsome, -⟩ | ⟨_, -, -, hadd⟩
  · cases hd.symm.trans he
  · cases hsome
  · refine Or.inl ?_
    show DocumentRepository.empty.add c = _
    rw [hadd]

/-- The customer is accepted and is in the way of every query from then on. -/
theorem readsBack_iff_isReadable_unbounded :
    ∃ (b : Customer) (r' : DocumentRepository CustomerProfile CustomerEvent),
      Stores DocumentRepository.empty unbounded b r' ∧ ¬ ReadsBack r' b ∧
      IsUnreadable r' unbounded.id := by
  have hstores := stores_of_empty (c := unbounded) (by decide)
  obtain ⟨-, hback, hunreadable⟩ := (readsBack_iff_isReadable unbounded _).2 _ _ hstores
  refine ⟨_, _, hstores, ?_, hunreadable not_isFinite_unbounded⟩
  rw [hback]
  intro hreadable
  cases not_isFinite_unbounded.symm.trans hreadable.score

/-- Not every customer that was accepted is read back. -/
theorem exists_not_readsBack :
    ¬ ∀ (r r' : DocumentRepository CustomerProfile CustomerEvent) (c b : Customer), Reachable r →
      Stores r c b r' → ReadsBack r' b := by
  intro hall
  have hstores := stores_of_empty (c := unbounded) (by decide)
  have hreadable := isReadable_of_readsBack hstores (hall _ _ _ _ .empty hstores)
  cases not_isFinite_unbounded.symm.trans hreadable.score

end Customer

end Quarry
