import Mathlib.Order.Bounds.Basic
import Quarry.Customer.Json
import Quarry.Event.Broadcast
import Quarry.Proofs.Repository.Writes
import Quarry.UnitOfWork

/-!
# What a commit writes

A commit applies the longest run of staged writes, from the first on, that the repository accepts
one after the other (`Change.AcceptsAll`). It is an error only of the write after that run, and then
that write and those behind it stay staged as they were, and nothing is published. The aggregates of
the run are handed on to be published before anything is.

The repository holds afterwards what the accepted writes made of it. In memory it is that repository.
A store of documents may have got one thing more, which is the empty collection of the kind: the
refused write makes it if it was missing and the aggregate could be written as a document.
-/

namespace Quarry

variable {ρ β σ ε : Type}

/-! ## Accepted writes -/

namespace Change

/-- The aggregate of a write as an accepted write gives it back. -/
def stamped : Change σ ε → Aggregate σ ε
  | .add a => a.atVersion 1
  | .update a => a.atVersion (a.version + 1)
  | .remove a => a

/-- A write that a repository of documents takes as far as its collection. -/
def IsStorable [JsonCodec (Aggregate σ ε)] : Change σ ε → Prop
  | .remove _ => True
  | change => ∃ d, DocumentRepository.documentOf change.stamped = .ok d

/-- A repository accepts writes one after the other. They take it from one state to another and give
aggregates back. -/
inductive AcceptsAll [Repository ρ σ ε] :
    ρ → List (Change σ ε) → List (Aggregate σ ε) → ρ → Prop where
  | nil (r : ρ) : AcceptsAll r [] [] r
  | cons {r r₁ r₂ : ρ} {change : Change σ ε} {rest : List (Change σ ε)} {a : Aggregate σ ε}
      {written : List (Aggregate σ ε)} (happly : change.apply r = (.ok a, r₁))
      (hrest : AcceptsAll r₁ rest written r₂) : AcceptsAll r (change :: rest) (a :: written) r₂

/-- The lengths of the runs of `changes`, from the first on, that `r` accepts. -/
def acceptedLengths [Repository ρ σ ε] (r : ρ) (changes : List (Change σ ε)) : Set Nat :=
  {k | k ≤ changes.length ∧ ∃ written r', AcceptsAll r (changes.take k) written r'}

section Accepting

variable [Repository ρ σ ε] {r r₁ : ρ} {change : Change σ ε} {rest : List (Change σ ε)}

theorem zero_mem_acceptedLengths (changes : List (Change σ ε)) :
    0 ∈ acceptedLengths r changes :=
  ⟨Nat.zero_le _, [], r, AcceptsAll.nil r⟩

/-- Behind an accepted write the repository accepts what it accepts after that write. -/
theorem succ_mem_acceptedLengths_iff {a : Aggregate σ ε} (h : change.apply r = (.ok a, r₁)) {k : Nat} :
    k + 1 ∈ acceptedLengths r (change :: rest) ↔ k ∈ acceptedLengths r₁ rest := by
  constructor
  · rintro ⟨hlen, written, r', hall⟩
    rw [List.take_succ_cons] at hall
    cases hall with
    | cons happly hrest =>
      rw [h] at happly
      cases happly
      exact ⟨Nat.le_of_succ_le_succ hlen, _, r', hrest⟩
  · rintro ⟨hlen, written, r', hall⟩
    refine ⟨Nat.succ_le_succ hlen, a :: written, r', ?_⟩
    rw [List.take_succ_cons]
    exact AcceptsAll.cons h hall

theorem acceptedLengths_of_refused {e : RepositoryError} (h : change.apply r = (.error e, r₁))
    {k : Nat} (hk : k ∈ acceptedLengths r (change :: rest)) : k = 0 := by
  obtain ⟨hlen, written, r', hall⟩ := hk
  cases k with
  | zero => rfl
  | succ k =>
    rw [List.take_succ_cons] at hall
    cases hall with
    | cons happly hrest =>
      rw [h] at happly
      cases happly

/-- What applying `changes` comes to: the longest accepted run is written, and the write after it is
the one that was refused. -/
theorem applyAll_spec (r : ρ) (changes : List (Change σ ε)) :
    ∃ k r', IsGreatest (acceptedLengths r changes) k ∧
      AcceptsAll r (changes.take k) (applyAll r changes).written r' ∧
      (applyAll r changes).left = changes.drop k ∧
      ((k = changes.length ∧ (applyAll r changes).refusal = none ∧
          (applyAll r changes).repository = r') ∨
        ∃ change e, changes[k]? = some change ∧
          change.apply r' = (.error e, (applyAll r changes).repository) ∧
          (applyAll r changes).refusal = some e) := by
  induction changes generalizing r with
  | nil =>
    refine ⟨0, r, ⟨zero_mem_acceptedLengths [], fun k hk => hk.1⟩, AcceptsAll.nil r, rfl, ?_⟩
    exact Or.inl ⟨rfl, rfl, rfl⟩
  | cons change rest ih =>
    rw [applyAll]
    rcases happly : change.apply r with ⟨e | a, r₁⟩
    · refine ⟨0, r, ⟨zero_mem_acceptedLengths _, fun k hk => ?_⟩, AcceptsAll.nil r, rfl, ?_⟩
      · exact Nat.le_of_eq (acceptedLengths_of_refused happly hk)
      · exact Or.inr ⟨change, e, rfl, happly, rfl⟩
    · obtain ⟨k, r', ⟨hmem, hmax⟩, hall, hleft, hend⟩ := ih r₁
      refine ⟨k + 1, r', ⟨(succ_mem_acceptedLengths_iff happly).mpr hmem, fun j hj => ?_⟩,
        ?_, hleft, ?_⟩
      · cases j with
        | zero => exact Nat.zero_le _
        | succ j => exact Nat.succ_le_succ (hmax ((succ_mem_acceptedLengths_iff happly).mp hj))
      · rw [List.take_succ_cons]
        exact AcceptsAll.cons happly hall
      · rcases hend with ⟨hk, hrefusal, hrepo⟩ | ⟨c, e, hc, hrefused, hrefusal⟩
        · exact Or.inl ⟨congrArg Nat.succ hk, hrefusal, hrepo⟩
        · exact Or.inr ⟨c, e, hc, hrefused, hrefusal⟩

end Accepting

/-! ## The two kinds of repositories -/

/-- Repositories that give an accepted write back as `stamped` says. -/
class Stamping (ρ : Type) {σ ε : Type} [Repository ρ σ ε] : Prop where
  eq_stamped {r r' : ρ} {change : Change σ ε} {a : Aggregate σ ε}
    (h : change.apply r = (.ok a, r')) : a = change.stamped

/-- Accepted writes give back aggregates that differ in their versions only. -/
theorem AcceptsAll.written_eq [Repository ρ σ ε] [Stamping ρ] {r r' : ρ}
    {changes : List (Change σ ε)} {written : List (Aggregate σ ε)}
    (h : AcceptsAll r changes written r') : written = changes.map stamped := by
  induction h with
  | nil r => rfl
  | cons happly hrest ih => rw [List.map_cons, ← ih, Stamping.eq_stamped happly]

section Memory

variable [AggregateKind σ] [Record (Aggregate σ ε)]

theorem apply_memory_cases (r : MemoryRepository σ ε) (change : Change σ ε) :
    (∃ r', change.apply r = (.ok change.stamped, r')) ∨
      ∃ e, change.apply r = (.error e, r) := by
  cases change with
  | add a =>
    rcases r.add_cases a with ⟨-, heq⟩ | ⟨b, -, heq⟩
    · exact Or.inl ⟨_, heq⟩
    · exact Or.inr ⟨_, heq⟩
  | update a =>
    rcases r.update_cases a with ⟨-, heq⟩ | ⟨b, -, -, heq⟩ | ⟨b, -, -, heq⟩
    · exact Or.inr ⟨_, heq⟩
    · exact Or.inr ⟨_, heq⟩
    · exact Or.inl ⟨_, heq⟩
  | remove a =>
    have happly : (Change.remove a).apply r =
        ((r.remove a.id (.exact a.version)).1.map fun () => a,
          (r.remove a.id (.exact a.version)).2) := rfl
    rw [happly]
    rcases r.remove_cases a.id (.exact a.version) with ⟨-, heq⟩ | ⟨b, -, -, heq⟩ | ⟨b, -, -, heq⟩
    · rw [heq]; exact Or.inr ⟨_, rfl⟩
    · rw [heq]; exact Or.inr ⟨_, rfl⟩
    · rw [heq]; exact Or.inl ⟨_, rfl⟩

instance : Stamping (MemoryRepository σ ε) where
  eq_stamped {r r' change a} h := by
    rcases apply_memory_cases r change with ⟨r'', heq⟩ | ⟨e, heq⟩
    · rw [heq] at h
      cases h
      rfl
    · rw [heq] at h
      cases h

end Memory

section Documents

variable [AggregateKind σ] [JsonCodec (Aggregate σ ε)] [Record (Aggregate σ ε)]

/-- A refused write leaves `r` alone or touches the collection, and which of the two happens is
decided by the write itself. -/
theorem apply_document_cases (r : DocumentRepository σ ε) (change : Change σ ε) :
    (∃ r', change.apply r = (.ok change.stamped, r')) ∨
    (∃ e, change.apply r = (.error e, r) ∧ ¬ change.IsStorable) ∨
    ∃ e, change.apply r = (.error e, r.touched) ∧ change.IsStorable := by
  cases change with
  | add a =>
    have hno {e : RepositoryError}
        (h : DocumentRepository.documentOf (a.atVersion 1) = .error e) :
        ¬ (Change.add a).IsStorable := by
      rintro ⟨d, hd⟩
      cases h.symm.trans hd
    rcases r.add_cases a with ⟨e, hd, heq⟩ | ⟨d, b, hd, -, heq⟩ | ⟨d, hd, -, heq⟩
    · exact Or.inr (Or.inl ⟨e, heq, hno hd⟩)
    · exact Or.inr (Or.inr ⟨_, heq, d, hd⟩)
    · exact Or.inl ⟨_, heq⟩
  | update a =>
    have hno {e : RepositoryError}
        (h : DocumentRepository.documentOf (a.atVersion (a.version + 1)) = .error e) :
        ¬ (Change.update a).IsStorable := by
      rintro ⟨d, hd⟩
      cases h.symm.trans hd
    rcases r.update_cases a with
      ⟨e, hd, heq⟩ | ⟨d, hd, -, heq⟩ | ⟨d, b, hd, -, -, heq⟩ | ⟨d, b, hd, -, -, heq⟩
    · exact Or.inr (Or.inl ⟨e, heq, hno hd⟩)
    · exact Or.inr (Or.inr ⟨_, heq, d, hd⟩)
    · exact Or.inr (Or.inr ⟨_, heq, d, hd⟩)
    · exact Or.inl ⟨_, heq⟩
  | remove a =>
    have happly : (Change.remove a).apply r =
        ((r.remove a.id (.exact a.version)).1.map fun () => a,
          (r.remove a.id (.exact a.version)).2) := rfl
    rw [happly]
    rcases r.remove_cases a.id (.exact a.version) with ⟨-, heq⟩ | ⟨b, -, -, heq⟩ | ⟨b, -, -, heq⟩
    · rw [heq]; exact Or.inr (Or.inr ⟨_, rfl, trivial⟩)
    · rw [heq]; exact Or.inr (Or.inr ⟨_, rfl, trivial⟩)
    · rw [heq]; exact Or.inl ⟨_, rfl⟩

instance : Stamping (DocumentRepository σ ε) where
  eq_stamped {r r' change a} h := by
    rcases apply_document_cases r change with ⟨r'', heq⟩ | ⟨e, heq, -⟩ | ⟨e, heq, -⟩
    · rw [heq] at h
      cases h
      rfl
    · rw [heq] at h
      cases h
    · rw [heq] at h
      cases h

end Documents

end Change

/-! ## Commits -/

namespace UnitOfWork

section Commit

variable [EventBus β Envelope] [AggregateKind σ] [DomainEvent ε]

/-- Publishing leaves the repository and the staged writes alone. -/
theorem publishWritten_frame (u : UnitOfWork ρ β σ ε) :
    u.publishWritten.2.repository = u.repository ∧ u.publishWritten.2.staged = u.staged := by
  simp only [publishWritten]
  split <;> exact ⟨rfl, rfl⟩

variable [Repository ρ σ ε]

/-- A commit of `u` writes the first `k` staged writes, which is the longest run that the repository
accepts, and `r` is the repository after just these. -/
structure CommitsRun (u : UnitOfWork ρ β σ ε) (k : Nat) (r : ρ) : Prop where
  /-- No longer run of staged writes is accepted. -/
  longest : IsGreatest (Change.acceptedLengths u.repository u.staged) k
  /-- The run is accepted, and `r` is what it makes of the repository. -/
  accepted : Change.AcceptsAll u.repository (u.staged.take k)
    ((u.staged.take k).map Change.stamped) r
  /-- A further write was refused. The commit answers why. It and those behind it stay staged, the
  aggregates of the run are to be published, and the publisher and its bus are as they were. -/
  refused (change : Change σ ε) (hchange : u.staged[k]? = some change) :
    ∃ e r', change.apply r = (.error e, r') ∧
      u.commit = (.error (.refused e),
        { repository := r'
          dispatcher := u.dispatcher
          staged := u.staged.drop k
          written := u.written ++ (u.staged.take k).map Change.stamped })
  /-- All writes were accepted. Then nothing is staged, and only what comes of publishing the
  aggregates written now and earlier is left to answer. -/
  completed (hk : k = u.staged.length) :
    u.commit.2.staged = [] ∧ u.commit.2.repository = r ∧
      let w : UnitOfWork ρ β σ ε := ⟨r, u.dispatcher, [], u.written ++ u.staged.map Change.stamped⟩
      u.commit = (w.publishWritten.1.mapError .unpublished, w.publishWritten.2)

/-- For every unit of work there is a longest run that a commit writes. -/
theorem exists_commitsRun [Change.Stamping ρ] (u : UnitOfWork ρ β σ ε) :
    ∃ k r, u.CommitsRun k r := by
  obtain ⟨k, r, hlongest, hall, hleft, hend⟩ := Change.applyAll_spec u.repository u.staged
  have hwritten := hall.written_eq
  refine ⟨k, r, hlongest, hwritten ▸ hall, fun change hchange => ?_, fun hk => ?_⟩
  · rcases hend with ⟨hk, -, -⟩ | ⟨c, e, hc, happly, hrefusal⟩
    · rw [hk, List.getElem?_eq_none (Nat.le_refl _)] at hchange
      cases hchange
    · rw [hchange] at hc
      cases hc
      refine ⟨e, _, happly, ?_⟩
      unfold commit applyStaged
      simp only [hrefusal, hleft, hwritten]
  · rcases hend with ⟨-, hrefusal, hrepo⟩ | ⟨c, e, hc, -, -⟩
    · have hcommit : u.commit =
          ((publishWritten ⟨r, u.dispatcher, [],
              u.written ++ u.staged.map Change.stamped⟩).1.mapError .unpublished,
            (publishWritten ⟨r, u.dispatcher, [],
              u.written ++ u.staged.map Change.stamped⟩).2) := by
        unfold commit applyStaged
        have htake : u.staged.take k = u.staged := by rw [hk, List.take_length]
        have hdrop : u.staged.drop k = [] := by rw [hk, List.drop_length]
        simp only [hrefusal, hleft, hwritten, hrepo, htake, hdrop]
      obtain ⟨hframe, hstaged⟩ := publishWritten_frame
        (⟨r, u.dispatcher, [], u.written ++ u.staged.map Change.stamped⟩ : UnitOfWork ρ β σ ε)
      rw [hcommit]
      exact ⟨hstaged, hframe, rfl⟩
    · rw [hk, List.getElem?_eq_none (Nat.le_refl _)] at hc
      cases hc

end Commit

section Repositories

variable [EventBus β Envelope] [AggregateKind σ] [DomainEvent ε] [Record (Aggregate σ ε)]

/-- After a commit a repository in memory is what the accepted writes made of it. -/
theorem CommitsRun.repository_memory {u : UnitOfWork (MemoryRepository σ ε) β σ ε} {k : Nat}
    {r : MemoryRepository σ ε} (h : u.CommitsRun k r) : u.commit.2.repository = r := by
  rcases Nat.lt_or_ge k u.staged.length with hk | hk
  · obtain ⟨e, r', happly, hcommit⟩ := h.refused _ (List.getElem?_eq_getElem hk)
    rw [hcommit]
    rcases Change.apply_memory_cases r u.staged[k] with ⟨r'', heq⟩ | ⟨e', heq⟩
    · cases happly.symm.trans heq
    · cases happly.symm.trans heq
      rfl
  · exact (h.completed (Nat.le_antisymm h.longest.1.1 hk)).2.1

variable [JsonCodec (Aggregate σ ε)]

/-- After a commit a repository of documents is what the accepted writes made of it, but for the
empty collection that the refused write may have made. -/
theorem CommitsRun.repository_document {u : UnitOfWork (DocumentRepository σ ε) β σ ε} {k : Nat}
    {r : DocumentRepository σ ε} (h : u.CommitsRun k r) :
    ((∃ change, u.staged[k]? = some change ∧ change.IsStorable) ∧
      u.commit.2.repository = r.touched) ∨
    ((∀ change, u.staged[k]? = some change → ¬ change.IsStorable) ∧
      u.commit.2.repository = r) := by
  rcases Nat.lt_or_ge k u.staged.length with hk | hk
  · have hget := List.getElem?_eq_getElem hk
    obtain ⟨e, r', happly, hcommit⟩ := h.refused _ hget
    rw [hcommit]
    rcases Change.apply_document_cases r u.staged[k] with ⟨r'', heq⟩ | ⟨e', heq, hno⟩ | ⟨e', heq, hs⟩
    · cases happly.symm.trans heq
    · cases happly.symm.trans heq
      refine Or.inr ⟨fun change hchange => ?_, rfl⟩
      rw [hget] at hchange
      cases hchange
      exact hno
    · cases happly.symm.trans heq
      exact Or.inl ⟨⟨_, hget, hs⟩, rfl⟩
  · refine Or.inr ⟨fun change hchange => ?_, (h.completed (Nat.le_antisymm h.longest.1.1 hk)).2.1⟩
    rw [List.getElem?_eq_none hk] at hchange
    cases hchange

/-- A commit writes the longest run of staged writes that the repository accepts, and only that. The
repository afterwards is the `r` that the run makes of it, exactly so in memory. In a store of
documents every collection holds the same documents, and the store itself is another one exactly if
the run left the kind without a collection and the write after it was refused by the collection. -/
theorem commit_writes_longest_run :
    (∀ u : UnitOfWork (MemoryRepository σ ε) β σ ε,
      ∃ k r, u.CommitsRun k r ∧ u.commit.2.repository = r) ∧
    ∀ u : UnitOfWork (DocumentRepository σ ε) β σ ε, ∃ k r, u.CommitsRun k r ∧
      (∀ name, u.commit.2.repository.store.collection name = r.store.collection name) ∧
      (u.commit.2.repository ≠ r ↔
        r.store.collections.find? (AggregateKind.name σ) = none ∧
          ∃ change, u.staged[k]? = some change ∧ change.IsStorable) := by
  constructor
  · intro u
    obtain ⟨k, r, h⟩ := u.exists_commitsRun
    exact ⟨k, r, h, h.repository_memory⟩
  · intro u
    obtain ⟨k, r, h⟩ := u.exists_commitsRun
    refine ⟨k, r, h, ?_⟩
    rcases h.repository_document with ⟨hs, heq⟩ | ⟨hno, heq⟩
    · rw [heq]
      refine ⟨fun name => DocumentStore.collection_touch _ _ _, ?_⟩
      rw [ne_eq, DocumentRepository.touched_eq_self_iff, not_not]
      exact ⟨fun hnone => ⟨hnone, hs⟩, fun hnone => hnone.1⟩
    · rw [heq]
      refine ⟨fun name => rfl, fun hne => absurd rfl hne, ?_⟩
      rintro ⟨-, change, hchange, hs⟩
      exact absurd hs (hno change hchange)

end Repositories

/-- The update of a customer that nobody ever stored is refused, so no write is accepted at all. The
store was empty before and has a collection afterwards. -/
theorem commit_refused_makes_collection :
    let u : UnitOfWork (DocumentRepository CustomerProfile CustomerEvent) (BroadcastBus Envelope)
        CustomerProfile CustomerEvent :=
      (new .empty ⟨.empty, ⟨0, 0⟩⟩).register
        (.update ⟨⟨⟨1, by decide⟩⟩, 0, CustomerProfile.blank, ⟨[]⟩⟩)
    Change.acceptedLengths u.repository u.staged = {0} ∧
      u.repository.store.collectionNames = [] ∧
      u.commit.2.repository.store.collectionNames = ["customer"] := by
  intro u
  refine ⟨?_, rfl, rfl⟩
  ext k
  constructor
  · intro hk
    exact Change.acceptedLengths_of_refused (show _ = (_, u.repository.touched) from rfl) hk
  · rintro rfl
    exact Change.zero_mem_acceptedLengths _

end UnitOfWork

end Quarry
