import Mathlib.Data.String.Basic
import Quarry.Proofs.Repository.Replies

/-!
# Which collections a store has

The repositories of several kinds of aggregates share one store, where each kind has a collection. A
write opens the collection of its kind before the collection is asked whether it takes the write. So
the collections of a store are those that a write came to, be it refused there
(`DocumentStore.collectionNames_after_requests`). Reading opens nothing, and neither does the write
of an aggregate that cannot be encoded.

The names tell to which kinds an aggregate was ever added only as long as no other write came to a
collection to which nothing was added.
-/

namespace Quarry

/-! ## One request -/

/-- The collection has some document. -/
def DocumentCollection.IsInhabited (c : DocumentCollection) : Prop :=
  ∃ key d, c.find? key = some d

namespace Request

variable {σ ε : Type}

/-- The request is an `add`. -/
def IsAdd : Request σ ε → Prop
  | .add _ => True
  | _ => False

/-- The request is a write and gets as far as the collection: it is a removal, or its aggregate can
be written as a document. -/
def ReachesCollection [JsonCodec (Aggregate σ ε)] : Request σ ε → Prop
  | .add a => ∃ d, DocumentRepository.documentOf (a.atVersion 1) = .ok d
  | .update a => ∃ d, DocumentRepository.documentOf (a.atVersion (a.version + 1)) = .ok d
  | .remove _ _ => True
  | _ => False

end Request

namespace Repository

variable {ρ σ ε : Type} [Repository ρ σ ε] [AggregateKind σ]

/-- The `request` is an add, and `r` accepts it. -/
def AcceptsAdd (r : ρ) (request : Request σ ε) : Prop :=
  request.IsAdd ∧ ∃ a, (reply r request).1 = .written (.ok ()) a

end Repository

namespace DocumentRepository

variable {σ ε : Type} [AggregateKind σ] [JsonCodec (Aggregate σ ε)] [Record (Aggregate σ ε)]

/-- A `request` does not get to the collection, or it is an add that is accepted there, or it gets
there and brings no document to a collection without documents. -/
theorem reply_cases (r : DocumentRepository σ ε) (request : Request σ ε) :
    (¬ request.ReachesCollection ∧ ¬ Repository.AcceptsAdd r request ∧
      (Repository.reply r request).2 = r) ∨
    (request.ReachesCollection ∧ Repository.AcceptsAdd r request ∧
      ∃ c, (Repository.reply r request).2 = r.withStored c) ∨
    (request.ReachesCollection ∧ (request.IsAdd → r.stored.IsInhabited) ∧
      ∃ c, (Repository.reply r request).2 = r.withStored c ∧
        (c.IsInhabited → r.stored.IsInhabited)) := by
  cases request with
  | add a =>
    rcases add_cases r a with ⟨e, he, heq⟩ | ⟨d, b, hd, hb, heq⟩ | ⟨d, hd, -, heq⟩
    · have hreply : (Repository.reply r (.add a)).1 = .written (.error e) a :=
        congrArg (Reply.ofWrite a) (congrArg Prod.fst heq)
      refine Or.inl ⟨?_, ?_, congrArg Prod.snd heq⟩
      · rintro ⟨d, hd⟩
        cases he.symm.trans hd
      · rintro ⟨-, b, hb⟩
        cases hreply.symm.trans hb
    · exact Or.inr (Or.inr ⟨⟨d, hd⟩, fun _ => ⟨_, b, hb⟩, r.stored, congrArg Prod.snd heq, id⟩)
    · have hreply : (Repository.reply r (.add a)).1 = .written (.ok ()) (a.atVersion 1) :=
        congrArg (Reply.ofWrite a) (congrArg Prod.fst heq)
      exact Or.inr (Or.inl ⟨⟨d, hd⟩, ⟨trivial, _, hreply⟩, _, congrArg Prod.snd heq⟩)
  | update a =>
    rcases update_cases r a with
      ⟨e, he, heq⟩ | ⟨d, hd, -, heq⟩ | ⟨d, _, hd, -, -, heq⟩ | ⟨d, b, hd, hb, -, heq⟩
    · refine Or.inl ⟨?_, fun h => h.1, congrArg Prod.snd heq⟩
      rintro ⟨d, hd⟩
      cases he.symm.trans hd
    · exact Or.inr (Or.inr ⟨⟨d, hd⟩, False.elim, r.stored, congrArg Prod.snd heq, id⟩)
    · exact Or.inr (Or.inr ⟨⟨d, hd⟩, False.elim, r.stored, congrArg Prod.snd heq, id⟩)
    · exact Or.inr (Or.inr ⟨⟨d, hd⟩, False.elim, _, congrArg Prod.snd heq, fun _ => ⟨_, b, hb⟩⟩)
  | remove id expected =>
    rcases remove_cases r id expected with ⟨-, heq⟩ | ⟨_, -, -, heq⟩ | ⟨b, hb, -, heq⟩
    · exact Or.inr (Or.inr ⟨trivial, False.elim, r.stored, congrArg Prod.snd heq, fun h => h⟩)
    · exact Or.inr (Or.inr ⟨trivial, False.elim, r.stored, congrArg Prod.snd heq, fun h => h⟩)
    · exact Or.inr (Or.inr ⟨trivial, False.elim, _, congrArg Prod.snd heq, fun _ => ⟨_, b, hb⟩⟩)
  | get | load | find | count | holdsAny | findPaged =>
    exact Or.inl ⟨not_false, fun h => h.1, rfl⟩

end DocumentRepository

/-! ## Requests to a shared store -/

/-- A `request` to the repository of some kind of aggregates. -/
structure StoreRequest where
  {State Event : Type}
  [kind : AggregateKind State]
  [codec : JsonCodec (Aggregate State Event)]
  [record : Record (Aggregate State Event)]
  request : Request State Event

attribute [instance] StoreRequest.kind StoreRequest.codec StoreRequest.record

/-- The name of the collection that `q` is about. -/
def StoreRequest.collection (q : StoreRequest) : String := AggregateKind.name q.State

namespace DocumentStore

/-- What the repository of the kind replies to `q`, and the store afterwards. -/
def serve (s : DocumentStore) (q : StoreRequest) : Reply q.State q.Event × DocumentStore :=
  let (reply, r) := Repository.reply (⟨s⟩ : DocumentRepository q.State q.Event) q.request
  (reply, r.store)

/-- The store after one request and the other. -/
def after : DocumentStore → List StoreRequest → DocumentStore
  | s, [] => s
  | s, q :: rest => after (s.serve q).2 rest

theorem after_concat (s : DocumentStore) (requests : List StoreRequest) (q : StoreRequest) :
    s.after (requests ++ [q]) = ((s.after requests).serve q).2 := by
  induction requests generalizing s with
  | nil => rfl
  | cons first rest ih => exact ih (s.serve first).2

/-- The request `q` is an add, and its repository in the store `s` accepts it. -/
def AcceptsAdd (s : DocumentStore) (q : StoreRequest) : Prop :=
  Repository.AcceptsAdd (⟨s⟩ : DocumentRepository q.State q.Event) q.request

/-- One of the requests is an add to the collection `name` that is accepted when its turn comes. -/
def AddsTo (name : String) : DocumentStore → List StoreRequest → Prop
  | _, [] => False
  | s, q :: rest => (q.collection = name ∧ s.AcceptsAdd q) ∨ AddsTo name (s.serve q).2 rest

/-- A request leaves the store alone or has an effect on its own collection only. -/
theorem serve_cases (s : DocumentStore) (q : StoreRequest) :
    (¬ q.request.ReachesCollection ∧ ¬ s.AcceptsAdd q ∧ (s.serve q).2 = s) ∨
    (q.request.ReachesCollection ∧ s.AcceptsAdd q ∧
      ∃ c, (s.serve q).2 = s.withCollection q.collection c) ∨
    (q.request.ReachesCollection ∧
      (q.request.IsAdd → (s.collection q.collection).IsInhabited) ∧
      ∃ c, (s.serve q).2 = s.withCollection q.collection c ∧
        (c.IsInhabited → (s.collection q.collection).IsInhabited)) := by
  rcases DocumentRepository.reply_cases (⟨s⟩ : DocumentRepository q.State q.Event) q.request with
    ⟨hno, hrefused, heq⟩ | ⟨hreaches, haccepts, c, heq⟩ | ⟨hreaches, hadd, c, heq, hc⟩
  · exact Or.inl ⟨hno, hrefused, congrArg DocumentRepository.store heq⟩
  · exact Or.inr (Or.inl ⟨hreaches, haccepts, c, congrArg DocumentRepository.store heq⟩)
  · exact Or.inr (Or.inr ⟨hreaches, hadd, c, congrArg DocumentRepository.store heq, hc⟩)

/-! ### Names -/

variable {s : DocumentStore} {q : StoreRequest} {requests : List StoreRequest} {name : String}

theorem pairwise_collectionNames (s : DocumentStore) : s.collectionNames.Pairwise (· < ·) :=
  s.collections.pairwise_keys.imp fun h => compare_lt_iff_lt.mp h

/-- A request that does not get to its collection leaves the store as it is. -/
theorem serve_of_not_reaches (h : ¬ q.request.ReachesCollection) : (s.serve q).2 = s := by
  rcases serve_cases s q with ⟨-, -, heq⟩ | ⟨hreaches, -⟩ | ⟨hreaches, -⟩
  · exact heq
  · exact absurd hreaches h
  · exact absurd hreaches h

/-- A request that gets to its collection leaves the store with such a collection. -/
theorem exists_serve_of_reaches (h : q.request.ReachesCollection) :
    ∃ c, (s.serve q).2 = s.withCollection q.collection c := by
  rcases serve_cases s q with ⟨hno, -⟩ | ⟨-, -, c, heq⟩ | ⟨-, -, c, heq, -⟩
  · exact absurd h hno
  · exact ⟨c, heq⟩
  · exact ⟨c, heq⟩

/-- A request is a concern of its own collection, and any other `name` has what it had. -/
theorem collection_serve_of_ne (h : name ≠ q.collection) :
    (s.serve q).2.collection name = s.collection name := by
  by_cases hreaches : q.request.ReachesCollection
  · obtain ⟨c, heq⟩ := exists_serve_of_reaches (s := s) hreaches
    rw [heq, collection_withCollection_of_ne s h]
  · rw [serve_of_not_reaches hreaches]

/-- After a request a collection is there if it was before or if the request got to it. -/
theorem mem_collectionNames_serve : name ∈ (s.serve q).2.collectionNames ↔
    name ∈ s.collectionNames ∨ (q.collection = name ∧ q.request.ReachesCollection) := by
  by_cases h : q.request.ReachesCollection
  · obtain ⟨c, heq⟩ := exists_serve_of_reaches (s := s) h
    rw [heq, and_iff_left h, or_comm, eq_comm (a := q.collection)]
    exact SortedMap.mem_keys_insert
  · rw [serve_of_not_reaches h, or_iff_left (fun hq => h hq.2)]

/-- A request leaves the names as they are just if it does not get to a collection that is missing.
-/
theorem collectionNames_serve_eq_iff : (s.serve q).2.collectionNames = s.collectionNames ↔
    (q.request.ReachesCollection → q.collection ∈ s.collectionNames) := by
  constructor
  · intro heq h
    rw [← heq, mem_collectionNames_serve]
    exact Or.inr ⟨rfl, h⟩
  · intro hmem
    by_cases h : q.request.ReachesCollection
    · obtain ⟨c, heq⟩ := exists_serve_of_reaches (s := s) h
      rw [heq]
      exact SortedMap.keys_insert_of_mem (hmem h) c
    · rw [serve_of_not_reaches h]

/-- After `requests` a collection is there if it was before or if one of them got to it. -/
theorem mem_collectionNames_after : name ∈ (s.after requests).collectionNames ↔
    name ∈ s.collectionNames ∨
      ∃ q ∈ requests, q.collection = name ∧ q.request.ReachesCollection := by
  induction requests generalizing s with
  | nil => simp [after]
  | cons q rest ih =>
    rw [after, ih, mem_collectionNames_serve, or_assoc, List.exists_mem_cons_iff]

/-! ### Adds -/

/-- Documents are in the collection `name` only if some were before or if one was added. -/
theorem isInhabited_of_serve (h : ((s.serve q).2.collection name).IsInhabited) :
    (s.collection name).IsInhabited ∨ (q.collection = name ∧ s.AcceptsAdd q) := by
  by_cases hname : q.collection = name
  · subst hname
    rcases serve_cases s q with ⟨-, -, heq⟩ | ⟨-, haccepts, -⟩ | ⟨-, -, c, heq, hc⟩
    · rw [heq] at h
      exact Or.inl h
    · exact Or.inr ⟨rfl, haccepts⟩
    · rw [heq, collection_withCollection_self] at h
      exact Or.inl (hc h)
  · rw [collection_serve_of_ne (Ne.symm hname)] at h
    exact Or.inl h

theorem AcceptsAdd.reachesCollection (h : s.AcceptsAdd q) : q.request.ReachesCollection := by
  rcases serve_cases s q with ⟨-, hrefused, -⟩ | ⟨hreaches, -⟩ | ⟨hreaches, -⟩
  · exact absurd h hrefused
  · exact hreaches
  · exact hreaches

/-- An add that gets to its collection is refused only since the collection has documents, and so an
add before it was accepted. -/
theorem isInhabited_or_addsTo_iff : (s.collection name).IsInhabited ∨ AddsTo name s requests ↔
    (s.collection name).IsInhabited ∨
      ∃ q ∈ requests, q.collection = name ∧ q.request.ReachesCollection ∧ q.request.IsAdd := by
  -- The store may have documents from the start: behind the first request it is any store.
  induction requests generalizing s with
  | nil => simp [AddsTo]
  | cons q rest ih =>
    constructor
    · have hfirst (h : q.collection = name ∧ s.AcceptsAdd q) : ∃ q' ∈ q :: rest,
          q'.collection = name ∧ q'.request.ReachesCollection ∧ q'.request.IsAdd :=
        ⟨q, List.mem_cons_self, h.1, h.2.reachesCollection, h.2.1⟩
      rintro (hs | hadds | hrest)
      · exact Or.inl hs
      · exact Or.inr (hfirst hadds)
      · rcases ih.mp (Or.inr hrest) with hserve | ⟨q', hq', h⟩
        · exact (isInhabited_of_serve hserve).imp_right hfirst
        · exact Or.inr ⟨q', List.mem_cons_of_mem q hq', h⟩
    · rintro (hs | ⟨q', hq', hname, hreaches, hadd⟩)
      · exact Or.inl hs
      rcases List.mem_cons.mp hq' with rfl | hrest
      · rcases serve_cases s q' with ⟨hno, -⟩ | ⟨-, haccepts, -⟩ | ⟨-, hs, -⟩
        · exact absurd hreaches hno
        · exact Or.inr (Or.inl ⟨hname, haccepts⟩)
        · exact Or.inl (hname ▸ hs hadd)
      · rcases ih.mpr (Or.inr ⟨q', hrest, hname, hreaches, hadd⟩) with hserve | hrest
        · exact (isInhabited_of_serve hserve).imp_right Or.inl
        · exact Or.inr (Or.inr hrest)

/-- From the empty store, something is added to a collection just if an add gets to it. -/
theorem addsTo_empty_iff : AddsTo name empty requests ↔
    ∃ q ∈ requests, q.collection = name ∧ q.request.ReachesCollection ∧ q.request.IsAdd := by
  have hempty : ¬ (empty.collection name).IsInhabited := by
    rintro ⟨key, d, hd⟩
    cases hd
  rw [← or_iff_right (b := AddsTo name empty requests) hempty, isInhabited_or_addsTo_iff,
    or_iff_right hempty]

/-! ### All requests -/

theorem mem_collectionNames_after_empty : name ∈ (empty.after requests).collectionNames ↔
    ∃ q ∈ requests, q.collection = name ∧ q.request.ReachesCollection := by
  have hempty : name ∉ empty.collectionNames := List.not_mem_nil
  rw [mem_collectionNames_after, or_iff_right hempty]

/-- After any `requests` to a store that was `empty` the collections are those that a write came to.
They are those to which something was added just if an add came to each of them. One more request
changes the names just if it is a write that comes to a missing collection; whether it is accepted
does not matter. -/
theorem collectionNames_after_requests (requests : List StoreRequest) :
    (empty.after requests).collectionNames.Pairwise (· < ·) ∧
    (∀ name, name ∈ (empty.after requests).collectionNames ↔
      ∃ q ∈ requests, q.collection = name ∧ q.request.ReachesCollection) ∧
    ((∀ name, name ∈ (empty.after requests).collectionNames ↔ AddsTo name empty requests) ↔
      ∀ q ∈ requests, q.request.ReachesCollection →
        ∃ q' ∈ requests, q'.collection = q.collection ∧ q'.request.ReachesCollection ∧
          q'.request.IsAdd) ∧
    ∀ q, (empty.after (requests ++ [q])).collectionNames =
        (empty.after requests).collectionNames ↔
      (q.request.ReachesCollection → q.collection ∈ (empty.after requests).collectionNames) := by
  refine ⟨pairwise_collectionNames _, fun name => mem_collectionNames_after_empty, ?_, ?_⟩
  · constructor
    · intro h q hq hreaches
      rw [← addsTo_empty_iff, ← h, mem_collectionNames_after_empty]
      exact ⟨q, hq, rfl, hreaches⟩
    · intro h name
      rw [addsTo_empty_iff, mem_collectionNames_after_empty]
      constructor
      · rintro ⟨q, hq, rfl, hreaches⟩
        exact h q hq hreaches
      · rintro ⟨q, hq, hname, hreaches, -⟩
        exact ⟨q, hq, hname, hreaches⟩
  · intro q
    rw [after_concat]
    exact collectionNames_serve_eq_iff

/-- A customer that was never added is updated. The update is refused and no add was accepted, but
there is a collection of customers. -/
theorem collectionNames_after_refused :
    let c : Customer := ⟨⟨⟨0x70008000000000000001, by decide⟩⟩, 0, CustomerProfile.blank, ⟨[]⟩⟩
    let q : StoreRequest := ⟨.update c⟩
    (empty.serve q).1 = .written (.error (AggregateKind.notFound CustomerProfile c.id)) c ∧
      empty.collectionNames = [] ∧ (empty.after [q]).collectionNames = ["customer"] ∧
      ¬ AddsTo "customer" empty [q] := by
  intro c q
  refine ⟨rfl, rfl, rfl, ?_⟩
  rintro (⟨-, hadd, -⟩ | hrest)
  · exact hadd
  · exact hrest

end DocumentStore

end Quarry
