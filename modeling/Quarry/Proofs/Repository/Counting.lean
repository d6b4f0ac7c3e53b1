import Quarry.Proofs.Repository.Replies

/-!
# Counting and finding

A repository counts in a loop of its own, and a repository of documents does not read what it
counts. The number is nevertheless that of the aggregates that are found, and where the search fails
the count fails with the same error, just if all documents that pass the filter can be read
(`DocumentRepository.countsWhatItFinds_iff`). They can as long as every aggregate that is written
can be read from its document (`Repository.counting_agreesWithFinding`); in memory nothing is
needed.
-/

namespace Quarry

namespace Repository

variable {ρ σ ε : Type} [Repository ρ σ ε]

/-- For the specification `s`, as many aggregates are counted as are found, there are some just if
some are found, and all three questions fail with the same error. -/
structure CountsWhatItFinds (r : ρ) (s : Specification (Aggregate σ ε)) : Prop where
  count : count r s = (find r s).map List.length
  holdsAny : holdsAny r s = (find r s).map fun found => decide (found ≠ [])

/-- The other questions being defined by `count`, it is enough that `count` counts what `find`
finds. -/
theorem countsWhatItFinds_of_count {r : ρ} {s : Specification (Aggregate σ ε)}
    (h : Repository.count r s = (find r s).map List.length) : CountsWhatItFinds r s := by
  refine ⟨h, ?_⟩
  rw [Repository.holdsAny, h]
  cases find r s with
  | error e => rfl
  | ok found =>
    have hpos : decide (0 < found.length) = decide (found ≠ []) := by
      simp [List.length_pos_iff]
    exact congrArg Except.ok hpos

end Repository

open Repository

variable {σ ε : Type}

theorem MemoryRepository.countsWhatItFinds [AggregateKind σ] [Record (Aggregate σ ε)]
    (r : MemoryRepository σ ε) (s : Specification (Aggregate σ ε)) : CountsWhatItFinds r s :=
  countsWhatItFinds_of_count (r.count_eq_map_find s)

/-! ## Documents that can be read -/

variable [JsonCodec (Aggregate σ ε)]

/-- What is written of `a`, at whichever version, can be read. -/
def Aggregate.IsDecodable (a : Aggregate σ ε) : Prop :=
  ∀ version body, JsonCodec.store (a.atVersion version) = .ok body →
    ∃ b : Aggregate σ ε, JsonCodec.decode body = .ok b

/-- If the request writes an aggregate, it is one that can be read from its document. -/
def Request.WritesDecodable : Request σ ε → Prop
  | .add a => a.IsDecodable
  | .update a => a.IsDecodable
  | _ => True

theorem Aggregate.IsDecodable.exists_read {a : Aggregate σ ε} (h : a.IsDecodable) {version : UInt64}
    {d : StoredDocument} (hd : DocumentRepository.documentOf (a.atVersion version) = .ok d) :
    ∃ b : Aggregate σ ε, DocumentRepository.read d = .ok b := by
  obtain ⟨b, hb⟩ := h version d.body (DocumentRepository.store_of_documentOf hd).2
  refine ⟨b.atVersion d.version, ?_⟩
  unfold DocumentRepository.read
  rw [hb]

/-- A customer that reads back can be read at whichever version. -/
theorem Customer.isDecodable {c : Customer} (hc : c.IsReadable) : Aggregate.IsDecodable c := by
  intro version body hstore
  have hd : DocumentRepository.documentOf (c.atVersion version) = .ok ⟨version, body⟩ := by
    unfold DocumentRepository.documentOf
    rw [hstore]
    rfl
  exact ⟨_, decode_documentOf hd ⟨hc.score, hc.joinedAt⟩⟩

namespace DocumentRepository

variable [AggregateKind σ] {r : DocumentRepository σ ε} {s : Specification (Aggregate σ ε)}

/-- All documents of `r` can be read. -/
def IsReadable (r : DocumentRepository σ ε) : Prop :=
  r.EachEntry fun _ d => ∃ a : Aggregate σ ε, read d = .ok a

theorem isReadable_empty : (DocumentRepository.empty : DocumentRepository σ ε).IsReadable := by
  intro e he
  cases he

/-- Where `s` is a filter, the documents that pass it can be read. -/
def ReadsMatches (r : DocumentRepository σ ε) (s : Specification (Aggregate σ ε)) : Prop :=
  ∀ f ds, s.toFilter? = some f → f.select r.documents = .ok ds →
    ∀ d ∈ ds, ∃ a : Aggregate σ ε, read d = .ok a

theorem IsReadable.readsMatches (h : r.IsReadable) (s : Specification (Aggregate σ ε)) :
    r.ReadsMatches s := by
  intro f ds _ hds d hd
  obtain ⟨e, he, rfl⟩ := List.mem_map.mp (Formula.mem_of_mem_select hds hd)
  exact h e he

variable [Record (Aggregate σ ε)]

/-- A request that writes nothing unreadable leaves all documents readable. -/
theorem IsReadable.reply (h : r.IsReadable) {request : Request σ ε}
    (hrequest : request.WritesDecodable) : (Repository.reply r request).2.IsReadable := by
  cases request with
  | add a | update a => exact h.put fun d hd => hrequest.exists_read hd
  | remove id expected => exact h.remove id expected
  | get | load | find | count | holdsAny | findPaged => exact h

theorem IsReadable.replies (h : r.IsReadable) {requests : List (Request σ ε)}
    (hrequests : ∀ request ∈ requests, request.WritesDecodable) :
    (Repository.replies r requests).2.IsReadable := by
  induction requests generalizing r with
  | nil => exact h
  | cons request rest ih =>
    rw [List.forall_mem_cons] at hrequests
    exact ih (h.reply hrequests.1) hrequests.2

/-- The count is made on the documents that pass, and the search goes on to read them; so they agree
just if these can be read. -/
theorem countsWhatItFinds_iff : CountsWhatItFinds r s ↔ r.ReadsMatches s := by
  have hfind : Repository.find r s = r.find s := rfl
  have hcount : Repository.count r s = r.count s := rfl
  constructor
  · intro h f ds hf hds
    have heq := h.count
    rw [hcount, hfind, count_of_filter hf, find_of_filter hf, hds] at heq
    refine exists_readAll_iff.mp ?_
    cases hread : (readAll ds : Except _ (List (Aggregate σ ε))) with
    | ok as => exact ⟨as, rfl⟩
    | error e => simp [hread, Except.map, Except.mapError] at heq
  · intro h
    refine countsWhatItFinds_of_count ?_
    rw [hcount, hfind]
    cases hf : s.toFilter? with
    | none => exact count_of_not_filter hf
    | some f =>
      rw [count_of_filter hf, find_of_filter hf]
      cases hds : f.select r.documents with
      | error e => rfl
      | ok ds =>
        obtain ⟨as, has⟩ := exists_readAll_iff.mpr (h f ds hf hds)
        have hlength := length_of_readAll has
        simp only [has]
        exact congrArg Except.ok hlength.symm

end DocumentRepository

/-! ## Every repository -/

namespace Repository

variable [AggregateKind σ] [Record (Aggregate σ ε)]

/-- A repository in memory counts what it finds. A repository of documents does so for a
specification `s` just if `r.ReadsMatches s`, and hence for all specifications after any `requests`
that write nothing that cannot be read. -/
theorem counting_agreesWithFinding :
    (∀ (r : MemoryRepository σ ε) (s : Specification (Aggregate σ ε)), CountsWhatItFinds r s) ∧
    (∀ (r : DocumentRepository σ ε) (s : Specification (Aggregate σ ε)),
      CountsWhatItFinds r s ↔ r.ReadsMatches s) ∧
    ∀ requests : List (Request σ ε), (∀ request ∈ requests, request.WritesDecodable) →
      ∀ s : Specification (Aggregate σ ε),
        CountsWhatItFinds (replies (DocumentRepository.empty : DocumentRepository σ ε) requests).2 s := by
  refine ⟨MemoryRepository.countsWhatItFinds, fun r s => DocumentRepository.countsWhatItFinds_iff, ?_⟩
  intro requests hrequests s
  have hreadable := DocumentRepository.isReadable_empty.replies hrequests
  exact DocumentRepository.countsWhatItFinds_iff.mpr (hreadable.readsMatches s)

/-- Of three customers one cannot be stored, and one is written twice. -/
theorem counting_agreesWithFinding_customers :
    let customer (n : Fin 4) (note : String) : Customer :=
      ⟨⟨⟨n, by omega⟩⟩, 0, { CustomerProfile.blank with note }, ⟨[]⟩⟩
    let requests := [.add (customer 1 ""), .add (customer 2 "!"), .add (customer 3 ""),
      .update ((customer 3 "late").atVersion 1)]
    let d : DocumentRepository CustomerProfile CustomerEvent := (replies .empty requests).2
    (∀ request ∈ requests, request.WritesDecodable) ∧ ∀ s, CountsWhatItFinds d s := by
  intro customer requests d
  have hscore : CustomerProfile.blank.score.isFinite = true := by decide
  have hdecodable (n : Fin 4) (note : String) (version : UInt64) :
      Aggregate.IsDecodable ((customer n note).atVersion version) :=
    Customer.isDecodable ⟨hscore, nofun⟩
  have hrequests : ∀ request ∈ requests, request.WritesDecodable := by
    simp only [requests, List.forall_mem_cons]
    exact ⟨hdecodable 1 "" 0, hdecodable 2 "!" 0, hdecodable 3 "" 0, hdecodable 3 "late" 1, nofun⟩
  exact ⟨hrequests, counting_agreesWithFinding.2.2 requests hrequests⟩

end Repository

end Quarry
