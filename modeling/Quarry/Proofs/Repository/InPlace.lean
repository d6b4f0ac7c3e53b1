import Quarry.Proofs.Except
import Quarry.Proofs.Repository.Keeping
import Quarry.Repository.InPlace

/-!
# What a write in place leaves behind

A write in place comes to the same as a write that is given an aggregate and answers with one: the
caller has the answer in place of its aggregate, or what it had if the write is refused
(`LawfulInPlace`). What was done to the aggregate before the refusal is taken back on each way out.

So whatever is said of the answers holds of the caller's aggregate as well. Of the entries of a
repository a refused write leaves every one as it was, and an accepted one changes the entry of the
aggregate that is written and no other (`InPlace.writes_keepToEntries`).
-/

namespace Quarry

variable {ρ σ ε : Type}

/-! ## The answers of writes -/

namespace WriteCall

/-- The identifier of the aggregate that is written. -/
def target (call : WriteCall) (a : Aggregate σ ε) : EntityId :=
  match call with
  | add => a.id
  | update => a.id
  | remove id _ => id

/-- What a repository answers that is given the caller's aggregate `a`. A removal has no use for it,
so the answer has `a` as it was. -/
def answer [Repository ρ σ ε] (call : WriteCall) (r : ρ) (a : Aggregate σ ε) :
    Except RepositoryError (Aggregate σ ε) × ρ :=
  match call with
  | add => Repository.add r a
  | update => Repository.update r a
  | remove id expected =>
    let (outcome, r') := Repository.remove r id expected
    (outcome.map fun () => a, r')

end WriteCall

/-- What the caller and the repository have after an answer, where `a` is what the caller had
before. -/
def Workplace.settle (a : Aggregate σ ε) :
    Except RepositoryError (Aggregate σ ε) × ρ → Except RepositoryError Unit × Workplace ρ σ ε
  | (.ok b, r) => (.ok (), ⟨b, r⟩)
  | (.error e, r) => (.error e, ⟨a, r⟩)

/-- Repositories in which a write in place comes to the `answer` to it, once that is settled. -/
class LawfulInPlace (ρ : Type) {σ ε : outParam Type} [Repository ρ σ ε] [InPlaceRepository ρ σ ε] :
    Prop where
  runOn_eq_settle (call : WriteCall) (a : Aggregate σ ε) (r : ρ) :
    call.runOn ⟨a, r⟩ = Workplace.settle a (call.answer r a)

namespace InPlace

variable {α : Type}

theorem run_get_bind (w : Workplace ρ σ ε) (k : Workplace ρ σ ε → InPlace ρ σ ε α) :
    (get >>= k).run.run w = (k w).run.run w :=
  rfl

theorem run_current_bind (w : Workplace ρ σ ε) (k : Aggregate σ ε → InPlace ρ σ ε α) :
    (current >>= k).run.run w = (k w.aggregate).run.run w :=
  rfl

theorem run_stamp_bind (w : Workplace ρ σ ε) (version : UInt64)
    (k : Unit → InPlace ρ σ ε α) : (stamp version >>= k).run.run w =
      (k ()).run.run { w with aggregate := w.aggregate.atVersion version } :=
  rfl

/-- A removal leaves the caller's aggregate alone, so it is settled as it is answered. -/
theorem run_remove [Repository ρ σ ε] (a : Aggregate σ ε) (r : ρ) (id : EntityId)
    (expected : ExpectedVersion) : (InPlace.remove id expected).run.run ⟨a, r⟩ =
      Workplace.settle a ((WriteCall.remove id expected).answer r a) := by
  rw [InPlace.remove, run_get_bind, WriteCall.answer]
  rcases Repository.remove r id expected with ⟨_ | _, r'⟩
  · rfl
  · rfl

end InPlace

open InPlace

/-! ### In memory -/

namespace MemoryRepository

variable [AggregateKind σ]

/-- Stamping and restoring comes to the answer of `MemoryRepository.add`. -/
theorem run_addInPlace (r : MemoryRepository σ ε) (a : Aggregate σ ε) :
    addInPlace.run.run ⟨a, r⟩ = Workplace.settle a (r.add a) := by
  rw [addInPlace, run_get_bind, add]
  dsimp only
  cases r.stored.contains a.id with
  | true => rfl
  | false => rfl

/-- Stamping and restoring comes to the answer of `MemoryRepository.update`. -/
theorem run_updateInPlace (r : MemoryRepository σ ε) (a : Aggregate σ ε) :
    updateInPlace.run.run ⟨a, r⟩ = Workplace.settle a (r.update a) := by
  rw [updateInPlace, run_get_bind, update]
  dsimp only
  cases r.stored.find? a.id with
  | none => rfl
  | some b =>
    dsimp only
    cases RepositoryError.checkVersion (.exact a.version) b.version with
    | error e => rfl
    | ok u => rfl

instance [Record (Aggregate σ ε)] : LawfulInPlace (MemoryRepository σ ε) where
  runOn_eq_settle call a r := by
    cases call with
    | add => exact run_addInPlace r a
    | update => exact run_updateInPlace r a
    | remove id expected => exact run_remove a r id expected

end MemoryRepository

/-! ### In stores of documents -/

namespace DocumentRepository

variable [JsonCodec (Aggregate σ ε)]

/-- An aggregate is stamped with the `version` to be written. If it cannot be written, it has its
version again. -/
theorem run_encodeInPlace (r : DocumentRepository σ ε) (a : Aggregate σ ε) (version : UInt64) :
    (encodeInPlace version).run.run ⟨a, r⟩ =
      match documentOf (a.atVersion version) with
      | .ok d => (.ok d.body, ⟨a.atVersion version, r⟩)
      | .error e => (.error e, ⟨a, r⟩) := by
  rw [encodeInPlace, documentOf, run_current_bind, run_stamp_bind, run_current_bind]
  cases JsonCodec.store (a.atVersion version) with
  | ok body => rfl
  | error e => rfl

variable [AggregateKind σ]

omit [JsonCodec (Aggregate σ ε)] in
theorem run_writeInPlace_bind {α : Type} (r : DocumentRepository σ ε) (a : Aggregate σ ε)
    (change : DocumentCollection → Except RepositoryError DocumentCollection)
    (k : Except RepositoryError Unit → InPlace (DocumentRepository σ ε) σ ε α) :
    (writeInPlace change >>= k).run.run ⟨a, r⟩ =
      let (outcome, store) := r.store.write (AggregateKind.name σ) change
      (k outcome).run.run ⟨a, ⟨store⟩⟩ :=
  rfl

/-- What `put` answers with a stamped aggregate is what comes of stamping the caller's one. -/
theorem run_putInPlace (r : DocumentRepository σ ε) (a : Aggregate σ ε) (version : UInt64)
    (check : DocumentCollection → Except RepositoryError Unit) :
    (putInPlace version check).run.run ⟨a, r⟩ =
      Workplace.settle a (r.put (a.atVersion version) check) := by
  have hencode := run_encodeInPlace r a version
  rw [putInPlace, run_current_bind, put]
  cases hd : documentOf (a.atVersion version) with
  | error e =>
    rw [hd] at hencode
    rw [run_bind_of_error hencode]
    rfl
  | ok d =>
    rw [hd] at hencode
    rw [run_bind_of_ok hencode, run_writeInPlace_bind]
    -- The document has the version that the aggregate was given before it was written down.
    obtain ⟨v, body⟩ := d
    obtain rfl : v = version := (store_of_documentOf hd).1
    dsimp only [Aggregate.atVersion]
    rcases r.store.write (AggregateKind.name σ) _ with ⟨_ | _, store⟩
    · rfl
    · rfl

/-- Stamping and restoring comes to the answer of `DocumentRepository.add`. -/
theorem run_addInPlace (r : DocumentRepository σ ε) (a : Aggregate σ ε) :
    addInPlace.run.run ⟨a, r⟩ = Workplace.settle a (r.add a) := by
  rw [addInPlace, run_current_bind]
  exact run_putInPlace r a 1 _

/-- Stamping and restoring comes to the answer of `DocumentRepository.update`. -/
theorem run_updateInPlace (r : DocumentRepository σ ε) (a : Aggregate σ ε) :
    updateInPlace.run.run ⟨a, r⟩ = Workplace.settle a (r.update a) := by
  rw [updateInPlace, run_current_bind]
  exact run_putInPlace r a (a.version + 1) _

instance [Record (Aggregate σ ε)] : LawfulInPlace (DocumentRepository σ ε) where
  runOn_eq_settle call a r := by
    cases call with
    | add => exact run_addInPlace r a
    | update => exact run_updateInPlace r a
    | remove id expected => exact run_remove a r id expected

end DocumentRepository

/-! ## Entries -/

/-- What a repository holds, entry by entry. The entry of an aggregate is under the `key` of its
identifier, and `IsOf` says what is kept of it there. -/
structure Holdings (ρ σ ε : Type) where
  Key : Type
  Entry : Type
  entry? : ρ → Key → Option Entry
  key : EntityId → Key
  IsOf : Entry → Aggregate σ ε → Prop

namespace Holdings

variable (H : Holdings ρ σ ε)

/-- What the `call` leaves under the key of the aggregate `a` that was written. -/
def Leaves (call : WriteCall) (a : Aggregate σ ε) (entry : Option H.Entry) : Prop :=
  match call with
  | .add => ∃ e, entry = some e ∧ H.IsOf e a
  | .update => ∃ e, entry = some e ∧ H.IsOf e a
  | .remove _ _ => entry = none

/-- What an answer may be: all entries are as they were in `r`, or only that of the aggregate is
another one. -/
inductive Effect (call : WriteCall) (a : Aggregate σ ε) (r : ρ) :
    Except RepositoryError (Aggregate σ ε) × ρ → Prop where
  | refused {e : RepositoryError} {r' : ρ} (h : ∀ key, H.entry? r' key = H.entry? r key) :
    Effect call a r (.error e, r')
  | accepted {version : UInt64} {r' : ρ}
    (hothers : ∀ key, key ≠ H.key (call.target a) → H.entry? r' key = H.entry? r key)
    (hown : H.Leaves call (a.atVersion version) (H.entry? r' (H.key (call.target a)))) :
    Effect call a r (.ok (a.atVersion version), r')

/-- The `call` changes nothing if it fails, neither for the caller nor in the repository. Otherwise
it changes the version of the caller's aggregate and the entry of the aggregate that is written. -/
structure KeepsToEntry [InPlaceRepository ρ σ ε] (call : WriteCall) (w : Workplace ρ σ ε) :
    Prop where
  failed : ∀ e w', call.runOn w = (.error e, w') →
    w'.aggregate = w.aggregate ∧ ∀ key, H.entry? w'.repository key = H.entry? w.repository key
  stamped : ∀ w', call.runOn w = (.ok (), w') →
    w'.aggregate = w.aggregate.atVersion w'.aggregate.version
  others : ∀ w', call.runOn w = (.ok (), w') → ∀ key, key ≠ H.key (call.target w.aggregate) →
    H.entry? w'.repository key = H.entry? w.repository key
  own : ∀ w', call.runOn w = (.ok (), w') →
    H.Leaves call w'.aggregate (H.entry? w'.repository (H.key (call.target w.aggregate)))

variable {H}

/-- If the answer to a `call` has an `Effect`, the write in place keeps to that entry. -/
theorem Effect.keepsToEntry [Repository ρ σ ε] [InPlaceRepository ρ σ ε] [LawfulInPlace ρ]
    {call : WriteCall} {w : Workplace ρ σ ε}
    (h : H.Effect call w.aggregate w.repository (call.answer w.repository w.aggregate)) :
    H.KeepsToEntry call w := by
  have hrun : call.runOn w = Workplace.settle w.aggregate (call.answer w.repository w.aggregate) :=
    LawfulInPlace.runOn_eq_settle call w.aggregate w.repository
  generalize call.answer w.repository w.aggregate = answered at h hrun
  cases h with
  | @refused e r' h =>
    refine ⟨?_, ?_, ?_, ?_⟩
    · intro e' w' hfailed
      cases hrun.symm.trans hfailed
      exact ⟨rfl, h⟩
    all_goals
      intro w' hdone
      cases hrun.symm.trans hdone
  | @accepted version r' hothers hown =>
    refine ⟨?_, ?_, ?_, ?_⟩
    · intro e' w' hfailed
      cases hrun.symm.trans hfailed
    · intro w' hdone
      cases hrun.symm.trans hdone
      rfl
    · intro w' hdone
      cases hrun.symm.trans hdone
      exact hothers
    · intro w' hdone
      cases hrun.symm.trans hdone
      exact hown

end Holdings

/-! ### In memory -/

namespace MemoryRepository

/-- The aggregates, by their identifiers; an entry is an aggregate without its pending events. -/
def holdings : Holdings (MemoryRepository σ ε) σ ε where
  Key := EntityId
  Entry := Aggregate σ ε
  entry? r id := r.stored.find? id
  key id := id
  IsOf b a := b = a.clearEvents

variable [AggregateKind σ] [Record (Aggregate σ ε)]

/-- What a repository in memory answers has an `Effect` on the entry of the aggregate. -/
theorem effect_answer (call : WriteCall) (r : MemoryRepository σ ε) (a : Aggregate σ ε) :
    holdings.Effect call a r (call.answer r a) := by
  have hput (version : UInt64) (id : EntityId) (hid : id ≠ a.id) :
      (r.put (a.atVersion version)).stored.find? id = r.stored.find? id :=
    SortedMap.find?_insert_of_ne _ hid _
  have hkept (version : UInt64) : (r.put (a.atVersion version)).stored.find? a.id =
      some (a.atVersion version).clearEvents :=
    SortedMap.find?_insert_self _ _ _
  cases call with
  | add =>
    show holdings.Effect .add a r (r.add a)
    rcases r.add_cases a with ⟨-, hadd⟩ | ⟨b, -, hadd⟩
    · rw [hadd]
      exact .accepted (hput 1) ⟨_, hkept 1, rfl⟩
    · rw [hadd]
      exact .refused fun key => rfl
  | update =>
    show holdings.Effect .update a r (r.update a)
    rcases r.update_cases a with ⟨-, hupdate⟩ | ⟨b, -, -, hupdate⟩ | ⟨b, -, -, hupdate⟩
    · rw [hupdate]
      exact .refused fun key => rfl
    · rw [hupdate]
      exact .refused fun key => rfl
    · rw [hupdate]
      exact .accepted (hput _) ⟨_, hkept _, rfl⟩
  | remove id expected =>
    show holdings.Effect (.remove id expected) a r
      ((r.remove id expected).1.map fun () => a, (r.remove id expected).2)
    rcases r.remove_cases id expected with ⟨-, hremove⟩ | ⟨b, -, -, hremove⟩ | ⟨b, -, -, hremove⟩
    · rw [hremove]
      exact .refused fun key => rfl
    · rw [hremove]
      exact .refused fun key => rfl
    · rw [hremove]
      exact .accepted (fun key hkey => SortedMap.find?_erase_of_ne _ hkey)
        (SortedMap.find?_erase_self _ _)

end MemoryRepository

/-! ### In stores of documents -/

namespace DocumentRepository

variable [AggregateKind σ] [JsonCodec (Aggregate σ ε)]

/-- The documents of all collections, by collection and text. -/
def holdings : Holdings (DocumentRepository σ ε) σ ε where
  Key := String × String
  Entry := StoredDocument
  entry? r key := (r.store.collection key.1).find? key.2
  key id := (AggregateKind.name σ, id.render)
  IsOf d a := documentOf a = .ok d

theorem entry?_touched (r : DocumentRepository σ ε) (key : String × String) :
    holdings.entry? r.touched key = holdings.entry? r key :=
  congrArg (SortedMap.find? · key.2) (DocumentStore.collection_touch r.store _ key.1)

/-- Other documents under one text of the collection of the kind leave all other entries. -/
theorem entry?_withStored_of_ne {r : DocumentRepository σ ε} {c : DocumentCollection}
    {id : EntityId} (hc : ∀ text, text ≠ id.render → c.find? text = r.stored.find? text)
    {key : String × String} (hkey : key ≠ (AggregateKind.name σ, id.render)) :
    holdings.entry? (r.withStored c) key = holdings.entry? r key := by
  obtain ⟨name, text⟩ := key
  by_cases hname : name = AggregateKind.name σ
  · subst hname
    have htext : text ≠ id.render := fun h => hkey (congrArg (Prod.mk _) h)
    have hcollection : (r.withStored c).store.collection (AggregateKind.name σ) = c :=
      stored_withStored r c
    show ((r.withStored c).store.collection (AggregateKind.name σ)).find? text = _
    rw [hcollection, hc text htext]
    rfl
  · exact congrArg (SortedMap.find? · text)
      (DocumentStore.collection_withCollection_of_ne r.store hname c)

theorem entry?_withStored_self (r : DocumentRepository σ ε) (c : DocumentCollection)
    (id : EntityId) : holdings.entry? (r.withStored c) (holdings.key id) = c.find? id.render :=
  congrArg (SortedMap.find? · id.render) (stored_withStored r c)

variable [Record (Aggregate σ ε)]

/-- What a repository of documents answers has an `Effect` on the entry of the aggregate. -/
theorem effect_answer (call : WriteCall) (r : DocumentRepository σ ε) (a : Aggregate σ ε) :
    holdings.Effect call a r (call.answer r a) := by
  have hothers (d : StoredDocument) (key : String × String)
      (hkey : key ≠ (AggregateKind.name σ, a.id.render)) :
      holdings.entry? (r.withStored (r.stored.insert a.id.render d)) key = holdings.entry? r key :=
    entry?_withStored_of_ne (fun text htext => SortedMap.find?_insert_of_ne _ htext _) hkey
  have hown (d : StoredDocument) :
      holdings.entry? (r.withStored (r.stored.insert a.id.render d)) (holdings.key a.id) = some d :=
    (entry?_withStored_self r _ a.id).trans (SortedMap.find?_insert_self _ _ _)
  cases call with
  | add =>
    show holdings.Effect .add a r (r.add a)
    rcases r.add_cases a with ⟨e, -, hadd⟩ | ⟨d, b, -, -, hadd⟩ | ⟨d, hd, -, hadd⟩
    · rw [hadd]
      exact .refused fun key => rfl
    · rw [hadd]
      exact .refused r.entry?_touched
    · rw [hadd]
      exact .accepted (hothers d) ⟨d, hown d, hd⟩
  | update =>
    show holdings.Effect .update a r (r.update a)
    rcases r.update_cases a with ⟨e, -, hupdate⟩ | ⟨d, -, -, hupdate⟩ | ⟨d, b, -, -, -, hupdate⟩ |
      ⟨d, b, hd, -, -, hupdate⟩
    · rw [hupdate]
      exact .refused fun key => rfl
    · rw [hupdate]
      exact .refused r.entry?_touched
    · rw [hupdate]
      exact .refused r.entry?_touched
    · rw [hupdate]
      exact .accepted (hothers d) ⟨d, hown d, hd⟩
  | remove id expected =>
    show holdings.Effect (.remove id expected) a r
      ((r.remove id expected).1.map fun () => a, (r.remove id expected).2)
    rcases r.remove_cases id expected with ⟨-, hremove⟩ | ⟨b, -, -, hremove⟩ | ⟨b, -, -, hremove⟩
    · rw [hremove]
      exact .refused r.entry?_touched
    · rw [hremove]
      exact .refused r.entry?_touched
    · rw [hremove]
      refine .accepted (fun key hkey => ?_) ?_
      · exact entry?_withStored_of_ne (fun text htext => SortedMap.find?_erase_of_ne _ htext) hkey
      · exact (entry?_withStored_self r _ id).trans (SortedMap.find?_erase_self _ _)

end DocumentRepository

/-! ### Both -/

/-- A `call` that fails changes no entry of any collection and nothing of the caller's aggregate.
One that succeeds changes one entry, that of the aggregate it is about, and the caller has its
version. -/
theorem InPlace.writes_keepToEntries {σ ε : Type} [AggregateKind σ] [JsonCodec (Aggregate σ ε)]
    [Record (Aggregate σ ε)] (call : WriteCall) :
    (∀ w : Workplace (MemoryRepository σ ε) σ ε, MemoryRepository.holdings.KeepsToEntry call w) ∧
      ∀ w : Workplace (DocumentRepository σ ε) σ ε,
        DocumentRepository.holdings.KeepsToEntry call w :=
  ⟨fun w => (MemoryRepository.effect_answer call w.repository w.aggregate).keepsToEntry,
    fun w => (DocumentRepository.effect_answer call w.repository w.aggregate).keepsToEntry⟩

end Quarry
