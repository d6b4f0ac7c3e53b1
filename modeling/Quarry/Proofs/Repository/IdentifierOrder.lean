import Mathlib.Data.Set.List
import Quarry.Proofs.Repository.Collections
import Quarry.Proofs.Repository.Versions

/-!
# Documents in the order of identifiers

The documents of a collection lie under the texts of identifiers and come in the order of these
texts. The texts compare as the identifiers do, so the documents come in the order of the
identifiers, and that is the order of a map in memory too. Where both have the same identifiers, they
are gone through in one and the same order (`EntityId.texts_keepOrder`).

It takes no more than keys that are texts of identifiers, and these are the only keys that requests
bring to a store, whatever kinds of aggregates share it (`DocumentStore.isKeyedById_after`).
-/

namespace Quarry

/-! ## Collections -/

namespace DocumentCollection

/-- Every document of `c` lies under the text of an identifier. -/
def IsKeyedById (c : DocumentCollection) : Prop :=
  ∀ key ∈ c.keys, ∃ id : EntityId, id.render = key

/-- The documents of `c` are those of the identifiers `ids`, one after the other, and these ascend.
-/
structure GoesBy (c : DocumentCollection) (ids : List EntityId) : Prop where
  ascending : ids.Pairwise fun a b => compare a b = .lt
  keys : c.keys = ids.map EntityId.render
  documents : c.values.map some = ids.map fun id => c.find? id.render

variable {c : DocumentCollection} {ids : List EntityId}

theorem goesBy_of_keys (h : c.keys = ids.map EntityId.render) : c.GoesBy ids where
  ascending := by
    have htexts := c.pairwise_keys
    rw [h, List.pairwise_map] at htexts
    simpa only [EntityId.compare_render] using htexts
  keys := h
  documents := by
    rw [← c.map_find?_keys, h, List.map_map]
    rfl

/-- In a collection that is keyed by identifiers the documents go by some `ids`. -/
theorem IsKeyedById.exists_goesBy (h : c.IsKeyedById) : ∃ ids, c.GoesBy ids := by
  have hrange : c.keys ∈ Set.range (List.map EntityId.render) := by
    rw [Set.range_list_map]
    exact h
  obtain ⟨ids, hids⟩ := hrange
  exact ⟨ids, goesBy_of_keys hids.symm⟩

theorem GoesBy.mem_iff (h : c.GoesBy ids) (id : EntityId) : id ∈ ids ↔ id.render ∈ c.keys := by
  rw [h.keys]
  exact (List.mem_map_of_injective fun _ _ => EntityId.render_inj).symm

/-- Ascending identifiers are those that the documents of `c` go by just if they are the same ones.
-/
theorem IsKeyedById.goesBy_of_mem_iff (h : c.IsKeyedById)
    (hascending : ids.Pairwise fun a b => compare a b = .lt)
    (hids : ∀ id : EntityId, id.render ∈ c.keys ↔ id ∈ ids) : c.GoesBy ids := by
  obtain ⟨own, hown⟩ := h.exists_goesBy
  have hsame : own = ids := by
    refine SortedMap.eq_of_ascending hown.ascending hascending ?_
    intro id
    rw [hown.mem_iff, hids]
  exact hsame ▸ hown

end DocumentCollection

/-! ## Stores -/

namespace DocumentRepository

variable {σ ε : Type} [AggregateKind σ] {r : DocumentRepository σ ε}

theorem isKeyedById_iff : r.stored.IsKeyedById ↔
    r.EachEntry fun key _ => ∃ id : EntityId, id.render = key := by
  unfold DocumentCollection.IsKeyedById SortedMap.keys EachEntry
  exact List.forall_mem_map

/-- A document that is written lies under the text of its aggregate's identifier, so every `request`
keeps the collection keyed by identifiers. -/
theorem isKeyedById_reply [JsonCodec (Aggregate σ ε)] [Record (Aggregate σ ε)]
    (h : r.stored.IsKeyedById) (request : Request σ ε) :
    (Repository.reply r request).2.stored.IsKeyedById := by
  rw [isKeyedById_iff] at h ⊢
  cases request with
  | add a => exact h.put fun _ _ => ⟨a.id, rfl⟩
  | update a => exact h.put fun _ _ => ⟨a.id, rfl⟩
  | remove id expected => exact h.remove id expected
  | get | load | find | count | holdsAny | findPaged => exact h

end DocumentRepository

namespace DocumentStore

variable {s : DocumentStore}

theorem isKeyedById_serve (h : ∀ name, (s.collection name).IsKeyedById) (q : StoreRequest)
    (name : String) : ((s.serve q).2.collection name).IsKeyedById := by
  by_cases hname : name = q.collection
  · subst hname
    exact DocumentRepository.isKeyedById_reply (r := ⟨s⟩) (h q.collection) q.request
  · rw [collection_serve_of_ne hname]
    exact h name

/-- After any `requests` all collections are keyed by identifiers. -/
theorem isKeyedById_after (h : ∀ name, (s.collection name).IsKeyedById)
    (requests : List StoreRequest) (name : String) :
    ((s.after requests).collection name).IsKeyedById := by
  induction requests generalizing s with
  | nil => exact h name
  | cons q rest ih => exact ih (isKeyedById_serve h q)

theorem isKeyedById_empty (name : String) : (empty.collection name).IsKeyedById :=
  nofun

end DocumentStore

/-! ## The order of texts -/

namespace EntityId

variable {σ ε : Type} [AggregateKind σ] [Record (Aggregate σ ε)]

/-- Identifiers compare as their texts do, and each text is that of one identifier, which `read`
gives back. So the documents that lie under texts go by ascending identifiers. They go by those of
any repository in memory that has the same ones, in the order in which it has its aggregates. -/
theorem texts_keepOrder :
    (∀ a b : EntityId, compare a b = compare a.render b.render) ∧
    (∀ a b : EntityId, a ≠ b → a.render ≠ b.render) ∧
    (∀ id : EntityId, read id.render = .ok id) ∧
    (∀ (requests : List StoreRequest) (name : String),
      ((DocumentStore.empty.after requests).collection name).IsKeyedById) ∧
    (∀ c : DocumentCollection, c.IsKeyedById → ∃ ids, c.GoesBy ids) ∧
    ∀ r : MemoryRepository σ ε, r.Reachable →
      (r.aggregates.map Aggregate.id).Pairwise (fun a b => compare a b = .lt) ∧
      ∀ c : DocumentCollection, c.IsKeyedById →
        (∀ id : EntityId, id.render ∈ c.keys ↔ id ∈ r.aggregates.map Aggregate.id) →
        c.GoesBy (r.aggregates.map Aggregate.id) := by
  refine ⟨?_, ?_, read_render, ?_, ?_, ?_⟩
  · intro a b
    exact (compare_render a b).symm
  · intro a b hne htext
    exact hne (render_inj htext)
  · intro requests name
    exact DocumentStore.isKeyedById_after DocumentStore.isKeyedById_empty requests name
  · intro c hc
    exact hc.exists_goesBy
  · intro r hr
    have hascending := (MemoryRepository.IsKeyed.of_reachable hr).pairwise_ids
    refine ⟨hascending, ?_⟩
    intro c hc hids
    exact hc.goesBy_of_mem_iff hascending hids

/-- Three customers, added in the descending order of their identifiers. The digits of the first two
differ in the last place only, where the one is a numeral and the other a letter. -/
theorem texts_keepOrder_customers :
    let ada : Customer := ⟨⟨⟨9, by decide⟩⟩, 0, .blank, .empty⟩
    let bob : Customer := ⟨⟨⟨10, by decide⟩⟩, 0, .blank, .empty⟩
    let cai : Customer := ⟨⟨⟨2 ^ 127, by decide⟩⟩, 0, .blank, .empty⟩
    let r : MemoryRepository CustomerProfile CustomerEvent :=
      (((MemoryRepository.empty.add cai).2.add bob).2.add ada).2
    let c := (DocumentStore.empty.after [⟨.add cai⟩, ⟨.add bob⟩, ⟨.add ada⟩]).collection "customer"
    (r.Reachable ∧ c.IsKeyedById ∧
      ∀ id : EntityId, id.render ∈ c.keys ↔ id ∈ r.aggregates.map Aggregate.id) ∧
    c.GoesBy [ada.id, bob.id, cai.id] := by
  intro ada bob cai r c
  obtain ⟨-, -, -, hstore, -, hmemory⟩ :=
    texts_keepOrder (σ := CustomerProfile) (ε := CustomerEvent)
  have hr : r.Reachable := .add ada (.add bob (.add cai .empty))
  have hc : c.IsKeyedById := hstore _ _
  have hkeys : c.keys = (r.aggregates.map Aggregate.id).map EntityId.render := by
    decide +kernel
  have hids (id : EntityId) : id.render ∈ c.keys ↔ id ∈ r.aggregates.map Aggregate.id := by
    rw [hkeys]
    exact List.mem_map_of_injective fun _ _ => render_inj
  exact ⟨⟨hr, hc, hids⟩, (hmemory r hr).2 c hc hids⟩

end EntityId

end Quarry
