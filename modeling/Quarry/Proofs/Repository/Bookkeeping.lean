import Quarry.Proofs.Customer.Queries
import Quarry.Proofs.Repository.Circulation
import Quarry.Proofs.Repository.InPlace

/-!
# What is on the books

Callers ask for writes one after the other, each with an aggregate of its own that may have any
version and any pending events. Some writes are accepted and some are refused. Whatever they asked
for, a stored customer lies under its own identifier and has no pending events, and its version is
one more than the number of accepted updates since it was last added
(`Customer.writes_keepBooks`).

A store of documents writes the version twice, beside the body and in it. Queries see the one in the
body and readers get the other one, so the two must not drift apart (`DocumentRepository.IsBooked`).
-/

namespace Quarry

open VersionGuarded (versions)

variable {ρ σ ε : Type}

/-! ## Sequences of calls -/

/-- What is entered into a log if the `call` is accepted with the aggregate `a`. -/
def WriteCall.accepted (call : WriteCall) (a : Aggregate σ ε) : AcceptedWrite :=
  match call with
  | .add => .add a.id
  | .update => .update a.id
  | .remove id _ => .remove id

/-- A `repository` with the `log` of the writes that it has accepted. -/
structure Booked (ρ : Type) where
  log : List AcceptedWrite
  repository : ρ

namespace Booked

/-- What comes of one more call, which is made with an aggregate. A refused call is not entered. -/
def call [InPlaceRepository ρ σ ε] (b : Booked ρ) (c : Aggregate σ ε × WriteCall) : Booked ρ :=
  match c.2.runOn ⟨c.1, b.repository⟩ with
  | (.ok (), w) => ⟨b.log ++ [c.2.accepted c.1], w.repository⟩
  | (.error _, w) => ⟨b.log, w.repository⟩

/-- What comes of `calls`, the first one being made on the repository `r` with an empty log. -/
def after [InPlaceRepository ρ σ ε] (r : ρ) (calls : List (Aggregate σ ε × WriteCall)) :
    Booked ρ :=
  calls.foldl call ⟨[], r⟩

/-- What holds before any calls and is preserved by `call` holds after all `calls`. -/
theorem after_induction [InPlaceRepository ρ σ ε] {motive : Booked ρ → Prop} {r : ρ}
    (start : motive ⟨[], r⟩) (step : ∀ b c, motive b → motive (b.call c))
    (calls : List (Aggregate σ ε × WriteCall)) : motive (after r calls) :=
  List.foldlRecOn calls call start fun b hb c _ => step b c hb

section

variable [Repository ρ σ ε] [InPlaceRepository ρ σ ε] [LawfulInPlace ρ] {b : Booked ρ}
  {a a' : Aggregate σ ε} {call : WriteCall} {r' : ρ}

/-- An accepted `call` is entered into the log. -/
theorem call_of_ok (h : call.answer b.repository a = (.ok a', r')) :
    b.call (a, call) = ⟨b.log ++ [call.accepted a], r'⟩ := by
  unfold Booked.call
  rw [LawfulInPlace.runOn_eq_settle, h]
  rfl

/-- A refused `call` leaves the log as it was. -/
theorem call_of_error {e : RepositoryError} (h : call.answer b.repository a = (.error e, r')) :
    b.call (a, call) = ⟨b.log, r'⟩ := by
  unfold Booked.call
  rw [LawfulInPlace.runOn_eq_settle, h]
  rfl

/-- A `call` leaves the repository that `WriteCall.answer` gives. -/
theorem repository_call (b : Booked ρ) (a : Aggregate σ ε) (call : WriteCall) :
    (b.call (a, call)).repository = (call.answer b.repository a).2 := by
  rcases hanswer : call.answer b.repository a with ⟨e | a', r'⟩
  · rw [call_of_error hanswer]
  · rw [call_of_ok hanswer]

end

end Booked

/-! ## Versions -/

section

variable [Repository ρ σ ε] [AggregateKind σ] [VersionGuarded ρ]

/-- An accepted `call` leads to other versions, and a refused one leaves them. -/
theorem WriteCall.answer_cases (call : WriteCall) (r : ρ) (a : Aggregate σ ε) :
    (∃ e r', call.answer r a = (.error e, r') ∧ versions r' = versions r) ∨
    ∃ a' r', call.answer r a = (.ok a', r') ∧
      (call.accepted a).Leads (versions r) (versions r') := by
  cases call with
  | add =>
    rcases VersionGuarded.add_cases r a with ⟨e, r', hadd, hsame⟩ | ⟨r', hadd, hnone, hversions⟩
    · exact Or.inl ⟨e, r', hadd, hsame⟩
    · refine Or.inr ⟨_, r', hadd, ?_⟩
      rw [hversions]
      exact .add hnone
  | update =>
    rcases VersionGuarded.update_cases r a with ⟨-, cause, hupdate⟩ | ⟨-, h⟩
    · exact Or.inl ⟨_, r, hupdate, rfl⟩
    · rcases h with ⟨-, r', hupdate, hsame⟩ | ⟨v, -, -, hupdate⟩ | ⟨r', hupdate, hstored, hversions⟩
      · exact Or.inl ⟨_, r', hupdate, hsame⟩
      · exact Or.inl ⟨_, r, hupdate, rfl⟩
      · refine Or.inr ⟨_, r', hupdate, ?_⟩
        rw [hversions]
        exact .update hstored
  | remove id expected =>
    rw [answer]
    rcases VersionGuarded.remove_cases r id expected with
      ⟨-, r', hremove, hsame⟩ | ⟨v, -, -, hremove⟩ | ⟨v, r', hremove, hstored, -, hversions⟩
    · rw [hremove]
      exact Or.inl ⟨_, r', rfl, hsame⟩
    · rw [hremove]
      exact Or.inl ⟨_, r, rfl, rfl⟩
    · rw [hremove]
      refine Or.inr ⟨a, r', rfl, ?_⟩
      rw [hversions]
      exact .remove hstored

theorem WriteCall.isSound_answer [VersionRevealing ρ] (call : WriteCall) {r : ρ}
    (h : VersionRevealing.IsSound r) (a : Aggregate σ ε) :
    VersionRevealing.IsSound (call.answer r a).2 := by
  cases call with
  | add => exact VersionRevealing.isSound_add h a
  | update => exact VersionRevealing.isSound_update h a
  | remove id expected => exact VersionRevealing.isSound_remove h id expected

end

/-- The `version` is that of an aggregate that was added and then updated, as often as it was
according to the `log`. -/
def IsNumbered (log : List AcceptedWrite) (id : EntityId) (version : UInt64) : Prop :=
  ∃ before after, log = before ++ .add id :: after ∧ .add id ∉ after ∧ .remove id ∉ after ∧
    version = UInt64.ofNat (1 + after.count (.update id))

theorem Evolves.isNumbered {log : List AcceptedWrite} {V : Versions}
    (h : Evolves (fun _ => none) log V) {id : EntityId} {v : UInt64} (hv : V id = some v) :
    IsNumbered log id v := by
  obtain ⟨before, after, rfl, hadded, hkept⟩ := exists_added h hv
  refine ⟨before, after, rfl, hadded, hkept, ?_⟩
  have hcounted := version_of_added h hkept
  rw [UInt64.ofNat_add, UInt64.ofNat_one]
  exact Option.some.inj (hv.symm.trans hcounted)

namespace Booked

/-- What the repository of `b` gives out has no pending events and the version that its log tells.
-/
structure GivesOut [Repository ρ σ ε] (b : Booked ρ) : Prop where
  get {id : EntityId} {a : Aggregate σ ε} (h : Repository.get b.repository id = .ok (some a)) :
    a.id = id ∧ a.events = .empty ∧ IsNumbered b.log id a.version
  find {s : Specification (Aggregate σ ε)} {found : List (Aggregate σ ε)}
    (h : Repository.find b.repository s = .ok found) {a : Aggregate σ ε} (ha : a ∈ found) :
    a.events = .empty ∧ IsNumbered b.log a.id a.version

variable [Repository ρ σ ε] [InPlaceRepository ρ σ ε] [LawfulInPlace ρ] [AggregateKind σ]
  [VersionGuarded ρ] {r : ρ}

/-- Through all `calls`, the versions that are stored are those that the log leads to. -/
theorem evolves_after (hr : versions r = fun _ => none)
    (calls : List (Aggregate σ ε × WriteCall)) :
    Evolves (fun _ => none) (after r calls).log (versions (after r calls).repository) := by
  refine after_induction (motive := fun b => Evolves (fun _ => none) b.log (versions b.repository))
    ?_ ?_ calls
  · rw [hr]
    exact .nil _
  · rintro b ⟨a, call⟩ ih
    rcases call.answer_cases b.repository a with ⟨e, r', hanswer, hsame⟩ | ⟨a', r', hanswer, hleads⟩
    · rw [call_of_error hanswer]
      exact hsame ▸ ih
    · rw [call_of_ok hanswer]
      exact ih.concat hleads

variable [VersionRevealing ρ]

theorem isSound_after (hr : VersionRevealing.IsSound r)
    (calls : List (Aggregate σ ε × WriteCall)) :
    VersionRevealing.IsSound (after r calls).repository := by
  refine after_induction (motive := fun b => VersionRevealing.IsSound b.repository) hr ?_ calls
  rintro b ⟨a, call⟩ ih
  rw [repository_call]
  exact call.isSound_answer ih a

end Booked

/-! ## In memory -/

namespace MemoryRepository

/-- What is stored under `id` is `a` with this identifier, without pending events and with the
version that the `log` tells. -/
structure IsBooked (log : List AcceptedWrite) (id : EntityId) (a : Aggregate σ ε) : Prop where
  id_eq : a.id = id
  quiet : a.events = .empty
  numbered : IsNumbered log id a.version

/-- No stored aggregate has pending events. -/
def IsQuiet (r : MemoryRepository σ ε) : Prop :=
  ∀ id a, r.stored.find? id = some a → a.events = .empty

variable [AggregateKind σ] [Record (Aggregate σ ε)]

theorem IsQuiet.answer {r : MemoryRepository σ ε} (h : r.IsQuiet) (call : WriteCall)
    (a : Aggregate σ ε) : (call.answer r a).2.IsQuiet := by
  have heffect := effect_answer call r a
  generalize call.answer r a = answered at heffect
  cases heffect with
  | refused hsame =>
    intro id b hb
    exact h id b ((hsame id).symm.trans hb)
  | @accepted version r' hothers hown =>
    intro id b hb
    by_cases hid : id = call.target a
    · subst hid
      cases call with
      | add | update =>
        obtain ⟨c, hc, rfl⟩ := hown
        cases hc.symm.trans hb
        rfl
      | remove id expected => cases Eq.trans (Eq.symm hown) hb
    · exact h id b ((hothers id hid).symm.trans hb)

/-- What comes of `calls` on the empty repository in memory. -/
def booked (calls : List (Aggregate σ ε × WriteCall)) : Booked (MemoryRepository σ ε) :=
  .after empty calls

variable (calls : List (Aggregate σ ε × WriteCall))

theorem isKeyed_booked : (booked calls).repository.IsKeyed := by
  have hsound : VersionRevealing.IsSound (booked calls).repository :=
    Booked.isSound_after isKeyed_empty calls
  exact hsound

theorem isQuiet_booked : (booked calls).repository.IsQuiet := by
  refine Booked.after_induction (motive := fun b : Booked (MemoryRepository σ ε) =>
    b.repository.IsQuiet) ?_ ?_ calls
  · intro id a h
    cases h
  · rintro b ⟨a, call⟩ ih
    rw [Booked.repository_call]
    exact ih.answer call a

theorem isBooked_of_mem {e : EntityId × Aggregate σ ε}
    (he : e ∈ (booked calls).repository.stored.entries) :
    IsBooked (booked calls).log e.1 e.2 := by
  have hfind : (booked calls).repository.stored.find? e.1 = some e.2 :=
    SortedEntries.find?_of_mem (SortedMap.ascending _) he
  refine ⟨isKeyed_booked calls e he, isQuiet_booked calls e.1 e.2 hfind, ?_⟩
  exact (Booked.evolves_after rfl calls).isNumbered (versions_of_find? hfind)

theorem givesOut_booked : (booked calls).GivesOut where
  get {id a} h := by
    have hfind : (booked calls).repository.stored.find? id = some a := Except.ok.inj h
    have hbooked := isBooked_of_mem calls (SortedEntries.mem_of_find? hfind)
    exact ⟨hbooked.id_eq, hbooked.quiet, hbooked.numbered⟩
  find {s found} h {a} ha := by
    have hselect : s.select (booked calls).repository.aggregates = .ok found :=
      mapError_eq_ok_iff.mp h
    obtain ⟨e, he, rfl⟩ := List.mem_map.mp (Formula.mem_of_mem_select hselect ha)
    have hbooked := isBooked_of_mem calls he
    refine ⟨hbooked.quiet, ?_⟩
    rw [hbooked.id_eq]
    exact hbooked.numbered

end MemoryRepository

/-! ## In stores of documents -/

namespace DocumentRepository

/-- The document `d` under `key` has the version that the `log` tells. Its body says both, and what
is read from it has both and no pending events. -/
structure IsBooked (log : List AcceptedWrite) (key : String) (d : StoredDocument) : Prop where
  numbered : ∃ id : EntityId, key = id.render ∧ IsNumbered log id d.version
  body : ∃ members, d.body = .object members ∧
    Json.member? "id" members = some (.string key) ∧
    Json.member? "version" members = some (.ofUInt64 d.version)
  read {c : Customer} (h : DocumentRepository.read d = .ok c) :
    c.id.render = key ∧ c.version = d.version ∧ c.events = .empty

theorem events_of_read {d : StoredDocument} {c : Customer}
    (h : DocumentRepository.read d = .ok c) : c.events = .empty := by
  unfold DocumentRepository.read at h
  split at h
  · next read hdecode =>
    have hquiet : read.events = .empty := Customer.events_of_decode hdecode
    cases h
    exact hquiet
  · cases h

/-- What comes of `calls` with customers on the empty repository of documents. -/
def booked (calls : List (Customer × WriteCall)) :
    Booked (DocumentRepository CustomerProfile CustomerEvent) :=
  .after empty calls

variable (calls : List (Customer × WriteCall))

theorem reachable_booked : Reachable (booked calls).repository := by
  have hsound : VersionRevealing.IsSound (booked calls).repository :=
    Booked.isSound_after Reachable.empty calls
  exact hsound

theorem isNumbered_of_versions {id : EntityId} {v : UInt64}
    (h : (booked calls).repository.versions id = some v) : IsNumbered (booked calls).log id v :=
  (Booked.evolves_after rfl calls).isNumbered h

/-- Every document is booked, since the version in its body is that of the entry. -/
theorem isBooked_of_mem {e : String × StoredDocument}
    (he : e ∈ (booked calls).repository.stored.entries) : IsBooked (booked calls).log e.1 e.2 := by
  have hfiled := IsFiled.of_reachable (reachable_booked calls)
  obtain ⟨c, hkey, hd⟩ := hfiled e he
  obtain ⟨members, hbody, hkept⟩ := Customer.isKeptAs_of_documentOf hd
  have hversion : e.2.version = c.version := (store_of_documentOf hd).1
  have hfind : (booked calls).repository.stored.find? e.1 = some e.2 :=
    SortedEntries.find?_of_mem (SortedMap.ascending _) he
  constructor
  case numbered =>
    refine ⟨c.id, hkey, isNumbered_of_versions calls (versions_of_find? ?_)⟩
    rw [← hkey]
    exact hfind
  case body =>
    refine ⟨members, hbody, ?_, ?_⟩
    · rw [hkey]
      exact hkept.id
    · rw [hversion]
      exact hkept.version
  case read =>
    intro read hread
    exact ⟨hfiled.render_of_read he hread, version_of_read hread, events_of_read hread⟩

/-- What is given out was read from a document, and every document is booked. -/
theorem givesOut_booked : (booked calls).GivesOut where
  get {id a} h := by
    have hversion := VersionRevealing.versions_of_get (reachable_booked calls) h
    obtain ⟨d, hd, hread⟩ := exists_of_get h
    have hbooked := isBooked_of_mem calls (SortedEntries.mem_of_find? hd)
    obtain ⟨hrender, -, hquiet⟩ := hbooked.read hread
    obtain rfl := EntityId.render_inj hrender
    exact ⟨rfl, hquiet, isNumbered_of_versions calls hversion⟩
  find {s found} h {a} ha := by
    obtain ⟨d, hd, hread⟩ := exists_of_find h ha
    have hversion := VersionRevealing.versions_of_find (reachable_booked calls) h ha
    exact ⟨events_of_read hread, isNumbered_of_versions calls hversion⟩

end DocumentRepository

/-! ## Customers -/

/-- Both kinds of repositories keep their books, whatever `calls` are made and with whatever
customers: each entry is as the log says, and so is what is given out. -/
theorem Customer.writes_keepBooks (calls : List (Customer × WriteCall)) :
    (∀ e ∈ (MemoryRepository.booked calls).repository.stored.entries,
      MemoryRepository.IsBooked (MemoryRepository.booked calls).log e.1 e.2) ∧
    (∀ e ∈ (DocumentRepository.booked calls).repository.stored.entries,
      DocumentRepository.IsBooked (DocumentRepository.booked calls).log e.1 e.2) ∧
    (MemoryRepository.booked calls).GivesOut ∧ (DocumentRepository.booked calls).GivesOut := by
  refine ⟨?_, ?_, ?_, ?_⟩
  · intro e he
    exact MemoryRepository.isBooked_of_mem calls he
  · intro e he
    exact DocumentRepository.isBooked_of_mem calls he
  · exact MemoryRepository.givesOut_booked calls
  · exact DocumentRepository.givesOut_booked calls

end Quarry
