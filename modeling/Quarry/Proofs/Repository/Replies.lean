import Quarry.Proofs.Customer.Queries

/-!
# Repositories that reply alike

A repository in memory and a repository of documents start without aggregates and are asked the same
things, one after the other. As long as every aggregate that is written can be kept as a document and
read back, and every specification has a predicate, the two give the same replies
(`Repository.replies_alike`): a client cannot tell which of them it works with.

What carries this is that the documents mirror the aggregates in memory entry by entry
(`DocumentRepository.Mirrors`). They can, since the texts of identifiers are in the order of the
identifiers.
-/

namespace Quarry

/-! ## Requests and replies -/

/-- What a client asks of a repository. -/
inductive Request (σ ε : Type) where
  | add (a : Aggregate σ ε)
  | update (a : Aggregate σ ε)
  | remove (id : EntityId) (expected : ExpectedVersion)
  | get (id : EntityId)
  | load (id : EntityId)
  | find (s : Specification (Aggregate σ ε))
  | count (s : Specification (Aggregate σ ε))
  | holdsAny (s : Specification (Aggregate σ ε))
  | findPaged (p : PagedSpecification (Aggregate σ ε))

/-- What a client gets from a repository. The reply to an `add` or `update` says whether the
aggregate was `written`, and has the `aggregate` as the client has it afterwards. -/
inductive Reply (σ ε : Type) where
  | written (outcome : Except RepositoryError Unit) (aggregate : Aggregate σ ε)
  | removed (outcome : Except RepositoryError Unit)
  | got (outcome : Except RepositoryError (Option (Aggregate σ ε)))
  | loaded (outcome : Except RepositoryError (Aggregate σ ε))
  | found (outcome : Except RepositoryError (List (Aggregate σ ε)))
  | counted (outcome : Except RepositoryError Nat)
  | held (outcome : Except RepositoryError Bool)

/-- The reply to a write of `a`: a refused write leaves the client with what it had. -/
def Reply.ofWrite {σ ε : Type} (a : Aggregate σ ε) :
    Except RepositoryError (Aggregate σ ε) → Reply σ ε
  | .ok b => .written (.ok ()) b
  | .error e => .written (.error e) a

namespace Repository

variable {ρ σ ε : Type} [Repository ρ σ ε] [AggregateKind σ]

/-- What `r` replies, and the repository afterwards. -/
def reply (r : ρ) : Request σ ε → Reply σ ε × ρ
  | .add a => (.ofWrite a (add r a).1, (add r a).2)
  | .update a => (.ofWrite a (update r a).1, (update r a).2)
  | .remove id expected => (.removed (remove r id expected).1, (remove r id expected).2)
  | .get id => (.got (get r id), r)
  | .load id => (.loaded (load r id), r)
  | .find s => (.found (find r s), r)
  | .count s => (.counted (count r s), r)
  | .holdsAny s => (.held (holdsAny r s), r)
  | .findPaged p => (.found (findPaged r p), r)

/-- What a repository replies to one request after the other, and the repository afterwards. -/
def replies : ρ → List (Request σ ε) → List (Reply σ ε) × ρ
  | r, [] => ([], r)
  | r, request :: rest =>
    ((reply r request).1 :: (replies (reply r request).2 rest).1,
      (replies (reply r request).2 rest).2)

end Repository

/-! ## Aggregates that can be kept -/

section Lossless

variable {σ ε : Type} [JsonCodec (Aggregate σ ε)]

/-- At every version `a` can be written as a document, and reading the document gives all of it back
but its pending events. -/
def Aggregate.IsLossless (a : Aggregate σ ε) : Prop :=
  ∀ version, ∃ body, JsonCodec.store (a.atVersion version) = .ok body ∧
    JsonCodec.decode body = .ok (a.atVersion version).clearEvents

/-- Only aggregates that are lossless are written, and only specifications with predicates asked. -/
def Request.IsPlain : Request σ ε → Prop
  | .add a => a.IsLossless
  | .update a => a.IsLossless
  | .remove _ _ => True
  | .get _ => True
  | .load _ => True
  | .find s => s.HasPredicate
  | .count s => s.HasPredicate
  | .holdsAny s => s.HasPredicate
  | .findPaged p => p.specification.HasPredicate

/-- The document `d` has the version of `a` and is read as `a`. -/
structure StoredDocument.Holds (d : StoredDocument) (a : Aggregate σ ε) : Prop where
  version : d.version = a.version
  read : DocumentRepository.read d = .ok a

/-- A lossless aggregate has a document that holds it without its events. -/
theorem Aggregate.IsLossless.exists_documentOf {a : Aggregate σ ε} (h : a.IsLossless)
    (version : UInt64) : ∃ d, DocumentRepository.documentOf (a.atVersion version) = .ok d ∧
      d.Holds (a.atVersion version).clearEvents := by
  obtain ⟨body, hstore, hdecode⟩ := h version
  have hdocument : DocumentRepository.documentOf (a.atVersion version) = .ok ⟨version, body⟩ := by
    unfold DocumentRepository.documentOf
    rw [hstore]
    rfl
  have hread : DocumentRepository.read (⟨version, body⟩ : StoredDocument) =
      .ok (a.atVersion version).clearEvents := by
    unfold DocumentRepository.read
    rw [hdecode]
    rfl
  exact ⟨_, hdocument, rfl, hread⟩

end Lossless

theorem MemoryRepository.count_eq_map_find {σ ε : Type} [AggregateKind σ] [Record (Aggregate σ ε)]
    (m : MemoryRepository σ ε) (s : Specification (Aggregate σ ε)) :
    Repository.count m s = (Repository.find m s).map List.length := by
  have hselect : s.count m.aggregates = (s.select m.aggregates).map List.length :=
    Formula.count_eq_select _ _ _
  have hcount : Repository.count m s = (s.count m.aggregates).mapError .evaluation := rfl
  have hfind : Repository.find m s = (s.select m.aggregates).mapError .evaluation := rfl
  rw [hcount, hfind, hselect]
  cases s.select m.aggregates <;> rfl

/-! ## Mirrors -/

namespace DocumentRepository

variable {σ ε : Type} [AggregateKind σ] [JsonCodec (Aggregate σ ε)]

/-- The repository of documents `d` holds what the repository in memory `m` holds: in the same
order, under the texts of the identifiers, and at the same versions. -/
def Mirrors (d : DocumentRepository σ ε) (m : MemoryRepository σ ε) : Prop :=
  SortedEntries.Parallel EntityId.render (fun a document => document.Holds a) m.stored.entries
    d.stored.entries

variable {d : DocumentRepository σ ε} {m : MemoryRepository σ ε}

theorem mirrors_empty :
    (DocumentRepository.empty : DocumentRepository σ ε).Mirrors MemoryRepository.empty :=
  .nil

/-- Mirrored repositories have something under the same identifiers, and the documents hold the
aggregates. -/
theorem Mirrors.find? (h : d.Mirrors m) (id : EntityId) :
    (m.stored.find? id = none ∧ d.stored.find? id.render = none) ∨
      ∃ a document, m.stored.find? id = some a ∧ d.stored.find? id.render = some document ∧
        document.Holds a := by
  have hrel : Option.Rel (fun a document => document.Holds a) (m.stored.find? id)
      (d.stored.find? id.render) := SortedEntries.Parallel.find? EntityId.compare_render h id
  cases hm : m.stored.find? id with
  | none =>
    cases hd : d.stored.find? id.render with
    | none => exact Or.inl ⟨rfl, rfl⟩
    | some document =>
      rw [hm, hd] at hrel
      cases hrel
  | some a =>
    cases hd : d.stored.find? id.render with
    | none =>
      rw [hm, hd] at hrel
      cases hrel
    | some document =>
      rw [hm, hd] at hrel
      cases hrel with
      | some hholds => exact Or.inr ⟨a, document, rfl, rfl, hholds⟩

theorem Mirrors.touched (h : d.Mirrors m) : d.touched.Mirrors m := by
  unfold Mirrors
  rw [stored_touched]
  exact h

/-- Putting an aggregate into the one and its document into the other preserves the mirroring. -/
theorem Mirrors.put (h : d.Mirrors m) {a : Aggregate σ ε} {document : StoredDocument}
    (hholds : document.Holds a.clearEvents) :
    (d.withStored (d.stored.insert a.id.render document)).Mirrors (m.put a) := by
  unfold Mirrors
  rw [stored_withStored]
  exact SortedEntries.Parallel.insert EntityId.compare_render h a.id hholds

theorem Mirrors.erase (h : d.Mirrors m) (id : EntityId) :
    (d.withStored (d.stored.erase id.render)).Mirrors ⟨m.stored.erase id⟩ := by
  unfold Mirrors
  rw [stored_withStored]
  exact SortedEntries.Parallel.erase EntityId.compare_render h id

/-! ### Writing -/

theorem Mirrors.add (h : d.Mirrors m) {a : Aggregate σ ε} (ha : a.IsLossless) :
    (d.add a).1 = (m.add a).1 ∧ (d.add a).2.Mirrors (m.add a).2 := by
  obtain ⟨document, hdocument, hholds⟩ := ha.exists_documentOf 1
  rcases h.find? a.id with ⟨hm, hd⟩ | ⟨b, old, hm, hd, -⟩
  · have hdadd : d.add a = _ := put_of_ok hdocument (DocumentCollection.checkAbsent_of_none hd)
    rcases m.add_cases a with ⟨-, hmadd⟩ | ⟨b, hb, -⟩
    · rw [hdadd, hmadd]
      exact ⟨rfl, h.put hholds⟩
    · cases hm.symm.trans hb
  · have hdadd : d.add a = _ :=
      put_of_refused hdocument (DocumentCollection.checkAbsent_of_some hd)
    rcases m.add_cases a with ⟨hb, -⟩ | ⟨b, -, hmadd⟩
    · cases hm.symm.trans hb
    · rw [hdadd, hmadd]
      exact ⟨rfl, h.touched⟩

theorem Mirrors.checkStored (h : d.Mirrors m) (id : EntityId) (expected : ExpectedVersion) :
    d.stored.checkStored σ id expected = match m.stored.find? id with
      | none => .error (AggregateKind.notFound σ id)
      | some b => RepositoryError.checkVersion expected b.version := by
  rcases h.find? id with ⟨hm, hd⟩ | ⟨b, document, hm, hd, hholds⟩
  · rw [DocumentCollection.checkStored_of_none hd, hm]
  · rw [DocumentCollection.checkStored_of_some hd, hm, hholds.version]

theorem Mirrors.update (h : d.Mirrors m) {a : Aggregate σ ε} (ha : a.IsLossless) :
    (d.update a).1 = (m.update a).1 ∧ (d.update a).2.Mirrors (m.update a).2 := by
  obtain ⟨document, hdocument, hholds⟩ := ha.exists_documentOf (a.version + 1)
  have hcheck := h.checkStored a.id (.exact a.version)
  rcases m.update_cases a with ⟨hm, hmupdate⟩ | ⟨b, hm, hne, hmupdate⟩ | ⟨b, hm, heq, hmupdate⟩
  · rw [hm] at hcheck
    have hdupdate : d.update a = _ := put_of_refused hdocument hcheck
    rw [hdupdate, hmupdate]
    exact ⟨rfl, h.touched⟩
  · have hstale : (ExpectedVersion.exact a.version).accepts b.version = false := by
      rw [← Bool.not_eq_true, ExpectedVersion.accepts_exact]
      exact hne
    rw [hm] at hcheck
    have hdupdate : d.update a = _ := put_of_refused hdocument
      (hcheck.trans (RepositoryError.checkVersion_of_not_accepts hstale))
    rw [hdupdate, hmupdate]
    exact ⟨rfl, h.touched⟩
  · have hcurrent : (ExpectedVersion.exact a.version).accepts b.version = true :=
      ExpectedVersion.accepts_exact.mpr heq
    rw [hm] at hcheck
    have hdupdate : d.update a = _ := put_of_ok hdocument
      (hcheck.trans (RepositoryError.checkVersion_of_accepts hcurrent))
    rw [hdupdate, hmupdate]
    exact ⟨rfl, h.put hholds⟩

theorem Mirrors.remove (h : d.Mirrors m) (id : EntityId) (expected : ExpectedVersion) :
    (d.remove id expected).1 = (m.remove id expected).1 ∧
      (d.remove id expected).2.Mirrors (m.remove id expected).2 := by
  have hcheck := h.checkStored id expected
  rcases m.remove_cases id expected with ⟨hm, hmremove⟩ | ⟨b, hm, hv, hmremove⟩ | ⟨b, hm, hv, hmremove⟩
  · rw [hm] at hcheck
    rw [remove_of_refused hcheck, hmremove]
    exact ⟨rfl, h.touched⟩
  · rw [hm] at hcheck
    rw [remove_of_refused (hcheck.trans (RepositoryError.checkVersion_of_not_accepts hv)), hmremove]
    exact ⟨rfl, h.touched⟩
  · rw [hm] at hcheck
    rw [remove_of_ok (hcheck.trans (RepositoryError.checkVersion_of_accepts hv)), hmremove]
    exact ⟨rfl, h.erase id⟩

/-! ### Reading -/

/-- Both have the same aggregate under `id`. -/
theorem Mirrors.get (h : d.Mirrors m) (id : EntityId) : d.get id = .ok (m.stored.find? id) := by
  unfold DocumentRepository.get
  rw [← DocumentRepository.stored]
  rcases h.find? id with ⟨hm, hd⟩ | ⟨b, document, hm, hd, hholds⟩
  · rw [hd, hm]
  · rw [hd, hm]
    exact congrArg (Except.map some) hholds.read

theorem Mirrors.readAll (h : d.Mirrors m) :
    DocumentRepository.readAll d.documents = .ok m.aggregates :=
  readAll_of_forall₂ ((SortedEntries.Parallel.values h).imp fun _ _ => StoredDocument.Holds.read)

variable [Record (Aggregate σ ε)]

/-- With predicates, the aggregates that are read are searched like those in memory. -/
theorem Mirrors.find (h : d.Mirrors m) {s : Specification (Aggregate σ ε)} (hs : s.HasPredicate) :
    d.find s = Repository.find m s :=
  find_of_not_filter hs.toFilter? h.readAll

theorem Mirrors.count (h : d.Mirrors m) {s : Specification (Aggregate σ ε)} (hs : s.HasPredicate) :
    d.count s = Repository.count m s := by
  rw [count_of_not_filter hs.toFilter?, h.find hs, m.count_eq_map_find]

/-- To one plain `request` the two repositories reply the same, and afterwards they mirror each
other again. -/
theorem Mirrors.reply (h : d.Mirrors m) {request : Request σ ε} (hplain : request.IsPlain) :
    (Repository.reply d request).1 = (Repository.reply m request).1 ∧
      (Repository.reply d request).2.Mirrors (Repository.reply m request).2 := by
  cases request with
  | add a =>
    obtain ⟨houtcome, hmirrors⟩ := h.add hplain
    exact ⟨congrArg (Reply.ofWrite a) houtcome, hmirrors⟩
  | update a =>
    obtain ⟨houtcome, hmirrors⟩ := h.update hplain
    exact ⟨congrArg (Reply.ofWrite a) houtcome, hmirrors⟩
  | remove id expected =>
    obtain ⟨houtcome, hmirrors⟩ := h.remove id expected
    exact ⟨congrArg Reply.removed houtcome, hmirrors⟩
  | get id => exact ⟨congrArg Reply.got (h.get id), h⟩
  | load id =>
    have hget : Repository.get d id = Repository.get m id := h.get id
    have hload : Repository.load d id = Repository.load m id := by
      unfold Repository.load
      rw [hget]
    exact ⟨congrArg Reply.loaded hload, h⟩
  | find s => exact ⟨congrArg Reply.found (h.find hplain), h⟩
  | count s => exact ⟨congrArg Reply.counted (h.count hplain), h⟩
  | holdsAny s =>
    have hcount : Repository.count d s = Repository.count m s := h.count hplain
    have hholds : Repository.holdsAny d s = Repository.holdsAny m s := by
      unfold Repository.holdsAny
      rw [hcount]
    exact ⟨congrArg Reply.held hholds, h⟩
  | findPaged p =>
    have hfind : Repository.find d p.specification = Repository.find m p.specification :=
      h.find hplain
    have hpaged : Repository.findPaged d p = Repository.findPaged m p := by
      unfold Repository.findPaged
      rw [hfind]
    exact ⟨congrArg Reply.found hpaged, h⟩

/-- To plain `requests`, one after the other, the two repositories reply the same and mirror each
other again. -/
theorem Mirrors.replies (h : d.Mirrors m) {requests : List (Request σ ε)}
    (hplain : ∀ request ∈ requests, request.IsPlain) :
    (Repository.replies d requests).1 = (Repository.replies m requests).1 ∧
      (Repository.replies d requests).2.Mirrors (Repository.replies m requests).2 := by
  induction requests generalizing d m with
  | nil => exact ⟨rfl, h⟩
  | cons request rest ih =>
    rw [List.forall_mem_cons] at hplain
    obtain ⟨hreply, hmirrors⟩ := h.reply hplain.1
    obtain ⟨hreplies, hlast⟩ := ih hmirrors hplain.2
    exact ⟨congrArg₂ List.cons hreply hreplies, hlast⟩

end DocumentRepository

/-! ## The same replies -/

/-- A customer with a note that is not confidential is lossless if it is readable. -/
theorem Customer.isLossless {c : Customer} (hnote : Note.isConfidential c.state.note = false)
    (hc : c.IsReadable) : c.IsLossless := by
  intro version
  obtain ⟨d, hd⟩ := exists_documentOf hnote version
  have hreadable : IsReadable (c.atVersion version) := ⟨hc.score, hc.joinedAt⟩
  have hstore := (DocumentRepository.store_of_documentOf hd).2
  exact ⟨d.body, hstore, decode_documentOf hd hreadable⟩

namespace Repository

variable {σ ε : Type} [AggregateKind σ] [JsonCodec (Aggregate σ ε)] [Record (Aggregate σ ε)]

/-- Whatever plain `requests` are made of a repository of documents and of a repository in memory,
both empty at first, the replies are the same, refusals with all that they say included. Afterwards
both hold the same aggregates at the same versions. -/
theorem replies_alike {requests : List (Request σ ε)}
    (hplain : ∀ request ∈ requests, request.IsPlain) :
    (replies (DocumentRepository.empty : DocumentRepository σ ε) requests).1 =
        (replies (MemoryRepository.empty : MemoryRepository σ ε) requests).1 ∧
      (replies (DocumentRepository.empty : DocumentRepository σ ε) requests).2.Mirrors
        (replies (MemoryRepository.empty : MemoryRepository σ ε) requests).2 :=
  DocumentRepository.mirrors_empty.replies hplain

/-- A customer is added, written again from an old copy and from the current one, looked for and
removed. -/
theorem replies_alike_customer :
    let c : Customer := ⟨⟨⟨7, by decide⟩⟩, 0, CustomerProfile.blank, ⟨[]⟩⟩
    let named : Specification Customer := .ofPredicate "named" fun c => c.state.firstName = ""
    let requests := [.add c, .add c, .update c, .update (c.atVersion 1), .get c.id, .find named,
      .count named, .remove c.id (.exact 1), .remove c.id .any, .load c.id]
    let d : DocumentRepository CustomerProfile CustomerEvent := .empty
    let m : MemoryRepository CustomerProfile CustomerEvent := .empty
    (∀ request ∈ requests, request.IsPlain) ∧
      (replies d requests).1 = (replies m requests).1 ∧
      (replies d requests).2.Mirrors (replies m requests).2 := by
  intro c named requests d m
  have hnote : Note.isConfidential CustomerProfile.blank.note = false := by decide
  have hscore : CustomerProfile.blank.score.isFinite = true := by decide
  have hlossless (version : UInt64) : (c.atVersion version).IsLossless :=
    Customer.isLossless hnote ⟨hscore, nofun⟩
  have hnamed : named.HasPredicate := ⟨_, _, List.mem_singleton.mpr rfl⟩
  have hplain : ∀ request ∈ requests, request.IsPlain := by
    simp only [requests, List.forall_mem_cons]
    exact ⟨hlossless 0, hlossless 0, hlossless 0, hlossless 1, trivial, hnamed, hnamed, trivial,
      trivial, trivial, nofun⟩
  exact ⟨hplain, replies_alike hplain⟩

end Repository

end Quarry
