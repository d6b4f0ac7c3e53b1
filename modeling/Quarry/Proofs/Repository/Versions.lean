import Mathlib.Data.List.Count
import Mathlib.Data.List.Induction
import Quarry.Proofs.Repository.Keeping
import Quarry.Proofs.Specification
import Quarry.Proofs.Uuid

/-!
# What versions tell

Whether a repository accepts a write depends on the versions of the stored aggregates only
(`VersionGuarded`). An add is accepted for an identifier without a version and gives it version one,
an update from the stored version makes it grow by one, and a removal takes it away. So the versions
can be read off the log of the accepted writes: as long as an aggregate is not removed, its version
counts its updates (`Evolves.version_of_kept`), and the count starts again whenever it is added
(`Evolves.version_eq_updatesSinceAdd`).

Reading reveals the stored version of an aggregate, as long as repositories are what writes make of
the empty one (`VersionRevealing`).
-/

namespace Quarry

/-- The versions of stored aggregates by their identifiers. -/
abbrev Versions := EntityId → Option UInt64

/-! ## Accepted writes -/

/-- A write that a repository has accepted. -/
inductive AcceptedWrite where
  | add (id : EntityId)
  | update (id : EntityId)
  | remove (id : EntityId)
deriving DecidableEq

namespace AcceptedWrite

/-- The identifier of the aggregate that was written. -/
def id : AcceptedWrite → EntityId
  | .add id => id
  | .update id => id
  | .remove id => id

/-- What an accepted write makes of the versions: `add` starts from one, `update` adds one, and
`remove` leaves none. -/
inductive Leads : AcceptedWrite → Versions → Versions → Prop where
  | add {V : Versions} {id : EntityId} (h : V id = none) :
    Leads (.add id) V (Function.update V id (some 1))
  | update {V : Versions} {id : EntityId} {v : UInt64} (h : V id = some v) :
    Leads (.update id) V (Function.update V id (some (v + 1)))
  | remove {V : Versions} {id : EntityId} {v : UInt64} (h : V id = some v) :
    Leads (.remove id) V (Function.update V id none)

theorem Leads.frame {w : AcceptedWrite} {V V' : Versions} (h : w.Leads V V') {id : EntityId}
    (hid : id ≠ w.id) : V' id = V id := by
  cases h with
  | add h => exact Function.update_of_ne hid _ _
  | update h => exact Function.update_of_ne hid _ _
  | remove h => exact Function.update_of_ne hid _ _

/-- An aggregate that is stored and stays so is not added; its version grows if it is updated. -/
theorem Leads.version_of_kept {w : AcceptedWrite} {V V' : Versions} (h : w.Leads V V')
    {id : EntityId} {v : UInt64} (hv : V id = some v) (hkept : w ≠ .remove id) :
    V' id = some (if w = .update id then v + 1 else v) := by
  by_cases hid : id = w.id
  · cases h with
    | add hnone =>
      subst hid
      cases hv.symm.trans hnone
    | update hstored =>
      subst hid
      obtain rfl := Option.some.inj (hv.symm.trans hstored)
      exact (Function.update_self _ _ _).trans (congrArg some (if_pos rfl).symm)
    | remove hstored =>
      subst hid
      exact absurd rfl hkept
  · have hother : w ≠ .update id := by
      rintro rfl
      exact hid rfl
    rw [h.frame hid, hv, if_neg hother]

theorem Leads.ne_add {w : AcceptedWrite} {V V' : Versions} (h : w.Leads V V') {id : EntityId}
    {v : UInt64} (hv : V id = some v) : w ≠ .add id := by
  rintro rfl
  cases h with
  | add hnone => cases hv.symm.trans hnone

/-- Where a version `v` comes from: from an addition, from an update, or from before if `w` is about
another aggregate. -/
theorem Leads.version_cases {w : AcceptedWrite} {V V' : Versions} (h : w.Leads V V')
    {id : EntityId} {v : UInt64} (hv : V' id = some v) :
    (w = .add id ∧ v = 1) ∨ (∃ u, w = .update id ∧ V id = some u ∧ v = u + 1) ∨
      (w.id ≠ id ∧ V id = some v) := by
  by_cases hid : id = w.id
  · subst hid
    cases h with
    | add hnone =>
      have hone := (Function.update_self _ _ _).symm.trans hv
      exact Or.inl ⟨rfl, (Option.some.inj hone).symm⟩
    | @update _ _ u hstored =>
      have hnext := (Function.update_self _ _ _).symm.trans hv
      exact Or.inr (Or.inl ⟨u, rfl, hstored, (Option.some.inj hnext).symm⟩)
    | remove hstored => cases (Function.update_self _ _ _).symm.trans hv
  · exact Or.inr (Or.inr ⟨Ne.symm hid, (h.frame hid).symm.trans hv⟩)

end AcceptedWrite

/-! ## Logs -/

/-- Each of some transitions leads, by `step`, from a state to that of the next one. -/
inductive Transitions {α S : Type} (step : α → S → S → Prop) : S → List α → S → Prop where
  | nil (s : S) : Transitions step s [] s
  | cons {s s₁ s₂ : S} {x : α} {xs : List α} (h : step x s s₁)
    (hrest : Transitions step s₁ xs s₂) : Transitions step s (x :: xs) s₂

namespace Transitions

variable {α β S : Type} {step : α → S → S → Prop} {s s₁ s₂ : S} {x : α} {xs xs' : List α}

theorem append (h : Transitions step s xs s₁) (h' : Transitions step s₁ xs' s₂) :
    Transitions step s (xs ++ xs') s₂ := by
  induction h with
  | nil s => exact h'
  | cons hx _ ih => exact .cons hx (ih h')

theorem concat (h : Transitions step s xs s₁) (hx : step x s₁ s₂) :
    Transitions step s (xs ++ [x]) s₂ :=
  h.append (.cons hx (.nil s₂))

theorem exists_of_append (h : Transitions step s (xs ++ xs') s₂) :
    ∃ s₁, Transitions step s xs s₁ ∧ Transitions step s₁ xs' s₂ := by
  induction xs generalizing s with
  | nil => exact ⟨s, .nil s, h⟩
  | cons x xs ih =>
    cases h with
    | cons hx hrest =>
      obtain ⟨s₁, hxs, hxs'⟩ := ih hrest
      exact ⟨s₁, .cons hx hxs, hxs'⟩

theorem exists_of_cons (h : Transitions step s (x :: xs) s₂) :
    ∃ s₁, step x s s₁ ∧ Transitions step s₁ xs s₂ := by
  cases h with
  | cons hx hrest => exact ⟨_, hx, hrest⟩

theorem exists_of_concat (h : Transitions step s (xs ++ [x]) s₂) :
    ∃ s₁, Transitions step s xs s₁ ∧ step x s₁ s₂ := by
  obtain ⟨s₁, hxs, hlast⟩ := h.exists_of_append
  obtain ⟨s', hx, hnil⟩ := hlast.exists_of_cons
  cases hnil
  exact ⟨s₁, hxs, hx⟩

theorem map {step' : β → S → S → Prop} {f : α → β} (h : Transitions step s xs s₁)
    (hf : ∀ x s s', step x s s' → step' (f x) s s') : Transitions step' s (xs.map f) s₁ := by
  induction h with
  | nil s => exact .nil s
  | cons hx _ ih => exact .cons (hf _ _ _ hx) ih

end Transitions

/-- What the writes of a log make of the versions. -/
abbrev Evolves : Versions → List AcceptedWrite → Versions → Prop :=
  Transitions AcceptedWrite.Leads

namespace Evolves

variable {V V₁ V₂ : Versions} {log : List AcceptedWrite} {id : EntityId}

/-- As long as an aggregate is not removed, its version counts its updates. -/
theorem version_of_kept (h : Evolves V log V₂) {v : UInt64} (hv : V id = some v)
    (hkept : .remove id ∉ log) : V₂ id = some (v + UInt64.ofNat (log.count (.update id))) := by
  induction h generalizing v with
  | nil V => simp [hv]
  | @cons V V₁ V₂ w log hw _ ih =>
    obtain ⟨hfirst, hrest⟩ := not_or.mp (mt List.mem_cons.mpr hkept)
    have hone := hw.version_of_kept hv fun heq => hfirst heq.symm
    rw [ih hone hrest]
    by_cases hupdate : w = .update id
    · subst hupdate
      have hcount : UInt64.ofNat (log.count (.update id) + 1) =
          1 + UInt64.ofNat (log.count (.update id)) := by
        rw [Nat.add_comm, UInt64.ofNat_add, UInt64.ofNat_one]
      rw [if_pos rfl, List.count_cons_self, hcount, UInt64.add_assoc]
    · rw [if_neg hupdate, List.count_cons_of_ne hupdate]

/-- The version of an aggregate that is not removed comes back only when all versions were through,
after a multiple of `2 ^ 64` updates. -/
theorem count_of_same_version (h : Evolves V log V₂) {v : UInt64} (hv : V id = some v)
    (hkept : .remove id ∉ log) (hsame : V₂ id = some v) :
    log.count (.update id) % 2 ^ 64 = 0 := by
  have hcounted := version_of_kept h hv hkept
  have hback : v + UInt64.ofNat (log.count (.update id)) = v :=
    Option.some.inj (hcounted.symm.trans hsame)
  exact (UInt64.ofNat_eq_iff_mod_eq_toNat _ _).mp (UInt64.add_eq_left.mp hback)

theorem not_added_of_kept (h : Evolves V log V₂) {v : UInt64} (hv : V id = some v)
    (hkept : .remove id ∉ log) : .add id ∉ log := by
  induction h generalizing v with
  | nil V => exact List.not_mem_nil
  | @cons V V₁ V₂ w log hw _ ih =>
    obtain ⟨hfirst, hrest⟩ := not_or.mp (mt List.mem_cons.mpr hkept)
    have hone := hw.version_of_kept hv fun heq => hfirst heq.symm
    refine mt List.mem_cons.mp (not_or.mpr ⟨?_, ih hone hrest⟩)
    exact fun heq => hw.ne_add hv heq.symm

/-- Nothing was done to an aggregate that was neither updated nor removed. -/
theorem id_ne_of_kept (h : Evolves V log V₂) {v : UInt64} (hv : V id = some v)
    (hkept : .remove id ∉ log) (hsame : .update id ∉ log) : ∀ w ∈ log, w.id ≠ id := by
  rintro w hw rfl
  cases w with
  | add id => exact not_added_of_kept h hv hkept hw
  | update id => exact hsame hw
  | remove id => exact hkept hw

/-- Once it is added, an aggregate has the versions of a new one, whatever was there in `before`. -/
theorem version_of_added {before after : List AcceptedWrite}
    (h : Evolves V (before ++ .add id :: after) V₂) (hkept : .remove id ∉ after) :
    V₂ id = some (1 + UInt64.ofNat (after.count (.update id))) := by
  obtain ⟨V₁, -, hrest⟩ := h.exists_of_append
  obtain ⟨V', hw, hafter⟩ := hrest.exists_of_cons
  cases hw with
  | add hnone => exact version_of_kept hafter (Function.update_self _ _ _) hkept

/-- An aggregate that has a version was added and has not been removed since. -/
theorem exists_added (h : Evolves (fun _ => none) log V) {v : UInt64} (hv : V id = some v) :
    ∃ before after, log = before ++ .add id :: after ∧ .add id ∉ after ∧ .remove id ∉ after := by
  induction log using List.reverseRecOn generalizing V v with
  | nil =>
    cases h
    cases hv
  | append_singleton log w ih =>
    obtain ⟨V₁, hlog, hw⟩ := h.exists_of_concat
    have hlater {u : UInt64} (hu : V₁ id = some u) (hadd : w ≠ .add id) (hremove : w ≠ .remove id) :
        ∃ before after, log ++ [w] = before ++ .add id :: after ∧
          .add id ∉ after ∧ .remove id ∉ after := by
      obtain ⟨before, after, rfl, hadded, hkept⟩ := ih hlog hu
      refine ⟨before, after ++ [w], by simp, ?_, ?_⟩
      · simp [hadded, hadd.symm]
      · simp [hkept, hremove.symm]
    rcases hw.version_cases hv with ⟨rfl, rfl⟩ | ⟨u, rfl, hu, rfl⟩ | ⟨hother, hsame⟩
    · exact ⟨log, [], rfl, List.not_mem_nil, List.not_mem_nil⟩
    · exact hlater hu nofun nofun
    · refine hlater hsame ?_ ?_
      · rintro rfl
        exact hother rfl
      · rintro rfl
        exact hother rfl

end Evolves

/-- The number of updates of `id` in `log` since it was last added. -/
def updatesSinceAdd (id : EntityId) (log : List AcceptedWrite) : Nat :=
  (log.reverse.takeWhile (· ≠ .add id)).count (.update id)

theorem updatesSinceAdd_concat_add (id : EntityId) (log : List AcceptedWrite) :
    updatesSinceAdd id (log ++ [.add id]) = 0 := by
  simp [updatesSinceAdd]

theorem updatesSinceAdd_concat_of_ne {id : EntityId} {w : AcceptedWrite} (h : w ≠ .add id)
    (log : List AcceptedWrite) : updatesSinceAdd id (log ++ [w]) =
      updatesSinceAdd id log + if w = .update id then 1 else 0 := by
  simp [updatesSinceAdd, h, List.count_cons]

/-- The version of an aggregate tells how often it was updated since it was added. -/
theorem Evolves.version_eq_updatesSinceAdd {log : List AcceptedWrite} {V : Versions}
    (h : Evolves (fun _ => none) log V) {id : EntityId} {v : UInt64} (hv : V id = some v) :
    v = 1 + UInt64.ofNat (updatesSinceAdd id log) := by
  induction log using List.reverseRecOn generalizing V v with
  | nil =>
    cases h
    cases hv
  | append_singleton log w ih =>
    obtain ⟨V₁, hlog, hw⟩ := h.exists_of_concat
    rcases hw.version_cases hv with ⟨rfl, rfl⟩ | ⟨u, rfl, hu, rfl⟩ | ⟨hother, hsame⟩
    · rw [updatesSinceAdd_concat_add]
      rfl
    · have hadd : AcceptedWrite.update id ≠ .add id := nofun
      rw [updatesSinceAdd_concat_of_ne hadd, if_pos rfl, ih hlog hu, UInt64.ofNat_add,
        UInt64.ofNat_one, UInt64.add_assoc]
    · have hadd : w ≠ .add id := by
        rintro rfl
        exact hother rfl
      have hupdate : w ≠ .update id := by
        rintro rfl
        exact hother rfl
      rw [updatesSinceAdd_concat_of_ne hadd, if_neg hupdate]
      exact ih hlog hsame

/-! ## Repositories that go by versions -/

/-- Repositories that accept a write or refuse it by the `versions` of what they hold, if it is one
that `IsWritable` allows. -/
class VersionGuarded (ρ : Type) {σ ε : outParam Type} [Repository ρ σ ε] [AggregateKind σ] where
  versions : ρ → Versions
  IsWritable : Aggregate σ ε → Prop
  add_cases (r : ρ) (a : Aggregate σ ε) :
    (∃ e r', Repository.add r a = (.error e, r') ∧ versions r' = versions r) ∨
    ∃ r', Repository.add r a = (.ok (a.atVersion 1), r') ∧ versions r a.id = none ∧
      versions r' = Function.update (versions r) a.id (some 1)
  update_cases (r : ρ) (a : Aggregate σ ε) :
    (¬ IsWritable (a.atVersion (a.version + 1)) ∧
      ∃ cause, Repository.update r a = (.error (.serialization cause), r)) ∨
    IsWritable (a.atVersion (a.version + 1)) ∧
      ((versions r a.id = none ∧ ∃ r',
          Repository.update r a = (.error (AggregateKind.notFound σ a.id), r') ∧
            versions r' = versions r) ∨
        (∃ v, versions r a.id = some v ∧ v ≠ a.version ∧
          Repository.update r a =
            (.error (.concurrency (.staleVersion (.exact a.version) v)), r)) ∨
        ∃ r', Repository.update r a = (.ok (a.atVersion (a.version + 1)), r') ∧
          versions r a.id = some a.version ∧
          versions r' = Function.update (versions r) a.id (some (a.version + 1)))
  remove_cases (r : ρ) (id : EntityId) (expected : ExpectedVersion) :
    (versions r id = none ∧ ∃ r',
      Repository.remove r id expected = (.error (AggregateKind.notFound σ id), r') ∧
        versions r' = versions r) ∨
    (∃ v, versions r id = some v ∧ expected.accepts v = false ∧
      Repository.remove r id expected =
        (.error (.concurrency (.staleVersion expected v)), r)) ∨
    ∃ v r', Repository.remove r id expected = (.ok (), r') ∧ versions r id = some v ∧
      expected.accepts v = true ∧ versions r' = Function.update (versions r) id none

/-! ### In memory -/

namespace MemoryRepository

variable {σ ε : Type}

/-- The versions of the aggregates that are stored in memory. -/
def versions (r : MemoryRepository σ ε) : Versions :=
  fun id => (r.stored.find? id).map Aggregate.version

theorem versions_put (r : MemoryRepository σ ε) (a : Aggregate σ ε) :
    (r.put a).versions = Function.update r.versions a.id (some a.version) :=
  r.stored.map_find?_insert Function.injective_id Aggregate.version a.id a.clearEvents

theorem versions_erase (r : MemoryRepository σ ε) (id : EntityId) :
    (⟨r.stored.erase id⟩ : MemoryRepository σ ε).versions =
      Function.update r.versions id none :=
  r.stored.map_find?_erase Function.injective_id Aggregate.version id

theorem versions_of_find? {r : MemoryRepository σ ε} {id : EntityId} {a : Aggregate σ ε}
    (h : r.stored.find? id = some a) : r.versions id = some a.version :=
  congrArg (Option.map _) h

theorem versions_of_none {r : MemoryRepository σ ε} {id : EntityId}
    (h : r.stored.find? id = none) : r.versions id = none :=
  congrArg (Option.map _) h

variable [AggregateKind σ] [Record (Aggregate σ ε)]

instance : VersionGuarded (MemoryRepository σ ε) where
  versions := versions
  IsWritable _ := True
  add_cases r a := by
    rcases r.add_cases a with ⟨hnone, hadd⟩ | ⟨b, -, hadd⟩
    · exact Or.inr ⟨_, hadd, versions_of_none hnone, r.versions_put (a.atVersion 1)⟩
    · exact Or.inl ⟨_, r, hadd, rfl⟩
  update_cases r a := by
    refine Or.inr ⟨trivial, ?_⟩
    rcases r.update_cases a with ⟨hnone, hupdate⟩ | ⟨b, hb, hne, hupdate⟩ | ⟨b, hb, heq, hupdate⟩
    · exact Or.inl ⟨versions_of_none hnone, r, hupdate, rfl⟩
    · exact Or.inr (Or.inl ⟨b.version, versions_of_find? hb, hne, hupdate⟩)
    · rw [← heq] at hupdate ⊢
      exact Or.inr (Or.inr ⟨_, hupdate, versions_of_find? hb,
        r.versions_put (a.atVersion (b.version + 1))⟩)
  remove_cases r id expected := by
    rcases r.remove_cases id expected with
      ⟨hnone, hremove⟩ | ⟨b, hb, hrefused, hremove⟩ | ⟨b, hb, haccepted, hremove⟩
    · exact Or.inl ⟨versions_of_none hnone, r, hremove, rfl⟩
    · exact Or.inr (Or.inl ⟨b.version, versions_of_find? hb, hrefused, hremove⟩)
    · exact Or.inr (Or.inr ⟨b.version, _, hremove, versions_of_find? hb, haccepted,
        r.versions_erase id⟩)

end MemoryRepository

/-! ### In stores of documents -/

namespace DocumentRepository

variable {σ ε : Type} [AggregateKind σ]

/-- The versions of the documents that are stored, by the identifiers whose texts they lie under. -/
def versions (r : DocumentRepository σ ε) : Versions :=
  fun id => (r.stored.find? id.render).map StoredDocument.version

theorem versions_of_find? {r : DocumentRepository σ ε} {id : EntityId} {d : StoredDocument}
    (h : r.stored.find? id.render = some d) : r.versions id = some d.version :=
  congrArg (Option.map _) h

theorem versions_of_none {r : DocumentRepository σ ε} {id : EntityId}
    (h : r.stored.find? id.render = none) : r.versions id = none :=
  congrArg (Option.map _) h

theorem versions_touched (r : DocumentRepository σ ε) : r.touched.versions = r.versions := by
  unfold versions
  rw [stored_touched]

/-- A document that is put under the text of `id` gives it its version. -/
theorem versions_insert (r : DocumentRepository σ ε) (id : EntityId) (d : StoredDocument) :
    (r.withStored (r.stored.insert id.render d)).versions =
      Function.update r.versions id (some d.version) := by
  unfold versions
  rw [stored_withStored]
  exact r.stored.map_find?_insert (fun _ _ => EntityId.render_inj) StoredDocument.version id d

theorem versions_erase (r : DocumentRepository σ ε) (id : EntityId) :
    (r.withStored (r.stored.erase id.render)).versions = Function.update r.versions id none := by
  unfold versions
  rw [stored_withStored]
  exact r.stored.map_find?_erase (fun _ _ => EntityId.render_inj) StoredDocument.version id

/-- Where a document is stored, there is a collection, and a refused write leaves no trace. -/
theorem touched_of_find? {r : DocumentRepository σ ε} {key : String} {d : StoredDocument}
    (h : r.stored.find? key = some d) : r.touched = r := by
  rw [touched_eq_self_iff]
  intro hnone
  have hempty : r.stored = SortedMap.empty := by
    unfold stored DocumentStore.collection
    rw [hnone]
    rfl
  rw [hempty] at h
  cases h

variable [JsonCodec (Aggregate σ ε)]

omit [AggregateKind σ] in
/-- An aggregate without a document is reported as an error of serialization. -/
theorem serialization_of_documentOf {a : Aggregate σ ε} {e : RepositoryError}
    (h : documentOf a = .error e) :
    (¬ ∃ d, documentOf a = .ok d) ∧ ∃ cause, e = .serialization cause := by
  refine ⟨?_, ?_⟩
  · rintro ⟨d, hd⟩
    cases hd.symm.trans h
  · unfold documentOf at h
    split at h
    · cases h
    · cases h
      exact ⟨_, rfl⟩

variable [Record (Aggregate σ ε)]

instance : VersionGuarded (DocumentRepository σ ε) where
  versions := versions
  IsWritable a := ∃ d, documentOf a = .ok d
  add_cases r a := by
    rcases r.add_cases a with ⟨e, -, hadd⟩ | ⟨d, b, -, -, hadd⟩ | ⟨d, hd, hnone, hadd⟩
    · exact Or.inl ⟨e, r, hadd, rfl⟩
    · exact Or.inl ⟨_, r.touched, hadd, r.versions_touched⟩
    · have hversion : d.version = 1 := (store_of_documentOf hd).1
      have hversions := r.versions_insert a.id d
      rw [hversion] at hversions
      exact Or.inr ⟨_, hadd, versions_of_none hnone, hversions⟩
  update_cases r a := by
    rcases r.update_cases a with ⟨e, hd, hupdate⟩ | ⟨d, hd, hnone, hupdate⟩ |
      ⟨d, b, hd, hb, hne, hupdate⟩ | ⟨d, b, hd, hb, heq, hupdate⟩
    · obtain ⟨hunwritable, cause, rfl⟩ := serialization_of_documentOf hd
      exact Or.inl ⟨hunwritable, cause, hupdate⟩
    · exact Or.inr ⟨⟨d, hd⟩, Or.inl ⟨versions_of_none hnone, _, hupdate, r.versions_touched⟩⟩
    · rw [touched_of_find? hb] at hupdate
      exact Or.inr ⟨⟨d, hd⟩, Or.inr (Or.inl ⟨b.version, versions_of_find? hb, hne, hupdate⟩)⟩
    · have hversion : d.version = a.version + 1 := (store_of_documentOf hd).1
      have hversions := r.versions_insert a.id d
      rw [hversion] at hversions
      have hstored := versions_of_find? hb
      rw [heq] at hstored
      exact Or.inr ⟨⟨d, hd⟩, Or.inr (Or.inr ⟨_, hupdate, hstored, hversions⟩)⟩
  remove_cases r id expected := by
    rcases r.remove_cases id expected with
      ⟨hnone, hremove⟩ | ⟨b, hb, hrefused, hremove⟩ | ⟨b, hb, haccepted, hremove⟩
    · exact Or.inl ⟨versions_of_none hnone, _, hremove, r.versions_touched⟩
    · rw [touched_of_find? hb] at hremove
      exact Or.inr (Or.inl ⟨b.version, versions_of_find? hb, hrefused, hremove⟩)
    · exact Or.inr (Or.inr ⟨b.version, _, hremove, versions_of_find? hb, haccepted,
        r.versions_erase id⟩)

end DocumentRepository

/-! ## Repositories that reveal versions -/

/-- Repositories that reveal the versions of the aggregates that they give out, as long as what is
stored has come there by writes; `IsSound` says so. -/
class VersionRevealing (ρ : Type) {σ ε : outParam Type} [Repository ρ σ ε] [AggregateKind σ]
    [VersionGuarded ρ] where
  IsSound : ρ → Prop
  isSound_add {r : ρ} (h : IsSound r) (a : Aggregate σ ε) : IsSound (Repository.add r a).2
  isSound_update {r : ρ} (h : IsSound r) (a : Aggregate σ ε) : IsSound (Repository.update r a).2
  isSound_remove {r : ρ} (h : IsSound r) (id : EntityId) (expected : ExpectedVersion) :
    IsSound (Repository.remove r id expected).2
  versions_of_get {r : ρ} (h : IsSound r) {id : EntityId} {a : Aggregate σ ε}
    (hget : Repository.get r id = .ok (some a)) :
    VersionGuarded.versions r a.id = some a.version
  versions_of_find {r : ρ} (h : IsSound r) {s : Specification (Aggregate σ ε)}
    {found : List (Aggregate σ ε)} (hfind : Repository.find r s = .ok found) {a : Aggregate σ ε}
    (ha : a ∈ found) : VersionGuarded.versions r a.id = some a.version

/-! ### In memory -/

namespace MemoryRepository

variable {σ ε : Type}

/-- Every aggregate of `r` lies under its identifier. -/
def IsKeyed (r : MemoryRepository σ ε) : Prop :=
  ∀ e ∈ r.stored.entries, e.2.id = e.1

theorem isKeyed_empty : (MemoryRepository.empty : MemoryRepository σ ε).IsKeyed :=
  nofun

theorem IsKeyed.put {r : MemoryRepository σ ε} (h : r.IsKeyed) (a : Aggregate σ ε) :
    (r.put a).IsKeyed := by
  intro e he
  rcases SortedEntries.mem_of_mem_insert he with rfl | he
  · rfl
  · exact h e he

theorem IsKeyed.erase {r : MemoryRepository σ ε} (h : r.IsKeyed) (id : EntityId) :
    (⟨r.stored.erase id⟩ : MemoryRepository σ ε).IsKeyed :=
  fun e he => h e (List.mem_of_mem_filter he)

/-- The aggregates of a keyed repository are in the order of their identifiers. -/
theorem IsKeyed.pairwise_ids {r : MemoryRepository σ ε} (h : r.IsKeyed) :
    (r.aggregates.map Aggregate.id).Pairwise fun a b => compare a b = .lt := by
  have hids : r.aggregates.map Aggregate.id = r.stored.keys := by
    rw [aggregates, SortedMap.values, SortedMap.keys, List.map_map]
    exact List.map_congr_left h
  rw [hids]
  exact r.stored.pairwise_keys

/-- A stored aggregate has the version that `versions` gives to its identifier. -/
theorem IsKeyed.versions_of_mem {r : MemoryRepository σ ε} (h : r.IsKeyed)
    {e : EntityId × Aggregate σ ε} (he : e ∈ r.stored.entries) :
    r.versions e.2.id = some e.2.version := by
  have hfind : r.stored.find? e.1 = some e.2 := SortedEntries.find?_of_mem r.stored.ascending he
  rw [h e he]
  exact versions_of_find? hfind

variable [AggregateKind σ] [Record (Aggregate σ ε)]

instance : VersionRevealing (MemoryRepository σ ε) where
  IsSound := IsKeyed
  isSound_add {r} h a := by
    rcases r.add_cases a with ⟨-, hadd⟩ | ⟨b, -, hadd⟩
    · exact (congrArg Prod.snd hadd).symm ▸ h.put _
    · exact (congrArg Prod.snd hadd).symm ▸ h
  isSound_update {r} h a := by
    rcases r.update_cases a with ⟨-, hupdate⟩ | ⟨b, -, -, hupdate⟩ | ⟨b, -, -, hupdate⟩
    · exact (congrArg Prod.snd hupdate).symm ▸ h
    · exact (congrArg Prod.snd hupdate).symm ▸ h
    · exact (congrArg Prod.snd hupdate).symm ▸ h.put _
  isSound_remove {r} h id expected := by
    rcases r.remove_cases id expected with ⟨-, hremove⟩ | ⟨b, -, -, hremove⟩ | ⟨b, -, -, hremove⟩
    · exact (congrArg Prod.snd hremove).symm ▸ h
    · exact (congrArg Prod.snd hremove).symm ▸ h
    · exact (congrArg Prod.snd hremove).symm ▸ h.erase id
  versions_of_get {r} h {id a} hget := by
    have hfind : r.stored.find? id = some a := Except.ok.inj hget
    exact h.versions_of_mem (SortedEntries.mem_of_find? hfind)
  versions_of_find {r} h {s found} hfind {a} ha := by
    have hselect : s.select r.aggregates = .ok found := mapError_eq_ok_iff.mp hfind
    obtain ⟨e, he, rfl⟩ := List.mem_map.mp (Formula.mem_of_mem_select hselect ha)
    exact h.versions_of_mem he

/-- Repositories to which writes lead, accepted and refused ones, from the `empty` repository. -/
inductive Reachable : MemoryRepository σ ε → Prop where
  | empty : Reachable empty
  | add {r : MemoryRepository σ ε} (a : Aggregate σ ε) (h : Reachable r) : Reachable (r.add a).2
  | update {r : MemoryRepository σ ε} (a : Aggregate σ ε) (h : Reachable r) :
    Reachable (r.update a).2
  | remove {r : MemoryRepository σ ε} (id : EntityId) (expected : ExpectedVersion)
    (h : Reachable r) : Reachable (r.remove id expected).2

/-- A repository that writes lead to is keyed, since each write puts an aggregate under its
identifier. -/
theorem IsKeyed.of_reachable {r : MemoryRepository σ ε} (h : Reachable r) : r.IsKeyed := by
  have hsound : VersionRevealing.IsSound r := by
    induction h with
    | empty => exact isKeyed_empty
    | add a _ ih => exact VersionRevealing.isSound_add ih a
    | update a _ ih => exact VersionRevealing.isSound_update ih a
    | remove id expected _ ih => exact VersionRevealing.isSound_remove ih id expected
  exact hsound

end MemoryRepository

/-! ### In stores of documents -/

/-- What is stored of an aggregate keeps its identifier: nothing else is read from it. -/
class KeepsIdentifier (σ ε : Type) [JsonCodec (Aggregate σ ε)] : Prop where
  id_eq {a b : Aggregate σ ε} {body : Json} (hstore : JsonCodec.store a = .ok body)
    (hdecode : JsonCodec.decode body = .ok b) : b.id = a.id

namespace DocumentRepository

variable {σ ε : Type} [JsonCodec (Aggregate σ ε)]

/-- Every aggregate that is read comes from one of the documents. -/
theorem exists_of_readAll {ds : List StoredDocument} {as : List (Aggregate σ ε)}
    (h : readAll ds = .ok as) {a : Aggregate σ ε} (ha : a ∈ as) : ∃ d ∈ ds, read d = .ok a := by
  induction ds generalizing as with
  | nil =>
    cases h
    cases ha
  | cons d rest ih =>
    rw [readAll] at h
    split at h
    · next b hb =>
      obtain ⟨others, hothers, rfl⟩ := map_eq_ok_iff.mp h
      rcases List.mem_cons.mp ha with rfl | ha
      · exact ⟨d, List.mem_cons_self, hb⟩
      · obtain ⟨d', hd', hread⟩ := ih hothers ha
        exact ⟨d', List.mem_cons_of_mem _ hd', hread⟩
    · cases h

/-- What is read from a document `d` has the version of `d`. -/
theorem version_of_read {d : StoredDocument} {b : Aggregate σ ε} (h : read d = .ok b) :
    b.version = d.version := by
  unfold read at h
  split at h
  · cases h
    rfl
  · cases h

variable [AggregateKind σ]

/-- What `get` gives out is read from the document under the text of its identifier. -/
theorem exists_of_get {r : DocumentRepository σ ε} {id : EntityId} {a : Aggregate σ ε}
    (h : r.get id = .ok (some a)) :
    ∃ d, r.stored.find? id.render = some d ∧ read d = .ok a := by
  unfold get at h
  split at h
  · next d hd =>
    obtain ⟨b, hread, hb⟩ := map_eq_ok_iff.mp h
    obtain rfl := Option.some.inj hb
    exact ⟨d, hd, hread⟩
  · cases h

/-- What `find` gives out is read from documents of the repository. -/
theorem exists_of_find [Record (Aggregate σ ε)] {r : DocumentRepository σ ε}
    {s : Specification (Aggregate σ ε)} {found : List (Aggregate σ ε)} (h : r.find s = .ok found)
    {a : Aggregate σ ε} (ha : a ∈ found) : ∃ d ∈ r.documents, read d = .ok a := by
  unfold find at h
  split at h
  · split at h
    · next documents hselect =>
      obtain ⟨d, hd, hread⟩ := exists_of_readAll h ha
      exact ⟨d, Formula.mem_of_mem_select hselect hd, hread⟩
    · cases h
  · split at h
    · next aggregates hall =>
      have hselect : s.select aggregates = .ok found := mapError_eq_ok_iff.mp h
      exact exists_of_readAll hall (Formula.mem_of_mem_select hselect ha)
    · cases h

variable [KeepsIdentifier σ ε]

/-- What is read from a document has the identifier that the document lies under. -/
theorem IsFiled.render_of_read {r : DocumentRepository σ ε} (h : r.IsFiled)
    {e : String × StoredDocument} (he : e ∈ r.stored.entries) {b : Aggregate σ ε}
    (hread : read e.2 = .ok b) : b.id.render = e.1 := by
  obtain ⟨a, hkey, hd⟩ := h e he
  unfold read at hread
  split at hread
  · next c hdecode =>
    cases hread
    have hid : c.id = a.id := KeepsIdentifier.id_eq (store_of_documentOf hd).2 hdecode
    rw [hkey]
    exact congrArg EntityId.render hid
  · cases hread

theorem IsFiled.versions_of_read {r : DocumentRepository σ ε} (h : r.IsFiled)
    {e : String × StoredDocument} (he : e ∈ r.stored.entries) {b : Aggregate σ ε}
    (hread : read e.2 = .ok b) : r.versions b.id = some b.version := by
  have hfind : r.stored.find? e.1 = some e.2 := SortedEntries.find?_of_mem r.stored.ascending he
  rw [← h.render_of_read he hread] at hfind
  rw [version_of_read hread]
  exact versions_of_find? hfind

variable [Record (Aggregate σ ε)]

instance : VersionRevealing (DocumentRepository σ ε) where
  IsSound := Reachable
  isSound_add h a := .add a h
  isSound_update h a := .update a h
  isSound_remove h id expected := .remove id expected h
  versions_of_get {r} h {id a} hget := by
    obtain ⟨d, hd, hread⟩ := exists_of_get hget
    exact (IsFiled.of_reachable h).versions_of_read (SortedEntries.mem_of_find? hd) hread
  versions_of_find {r} h {s found} hfind {a} ha := by
    obtain ⟨d, hd, hread⟩ := exists_of_find hfind ha
    obtain ⟨e, he, rfl⟩ := List.mem_map.mp hd
    exact (IsFiled.of_reachable h).versions_of_read he hread

end DocumentRepository

end Quarry
