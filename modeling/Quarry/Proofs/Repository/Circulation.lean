import Quarry.Proofs.Customer.Json
import Quarry.Proofs.Repository.Versions

/-!
# Copies in circulation

Many clients work with one repository. They get copies of what it holds, change them and write them
back, in any order, and each copy may be any number of writes old by then. All that the repository
has to tell an old copy from a current one is its version.

What carries the theory is that the version of a copy was the stored one when the repository gave
the copy out (`Copy.IsFrom`): with the log of the writes since then it is known what the repository
makes of the copy. An update of a copy is accepted only if no other update was accepted in between,
unless there were `2 ^ 64` of them or a multiple, so that all versions were through
(`Repository.no_update_is_lost`). That is so as long as the aggregate is not removed. Once it is
removed and added again its versions start from one again, and an old copy is taken for a current one
just if both lives have seen the same number of updates, modulo `2 ^ 64`
(`Repository.old_copies_are_judged`).
-/

namespace Quarry

/-! ## Clients -/

/-- A copy of an aggregate that a client has. -/
structure Copy (σ ε : Type) where
  aggregate : Aggregate σ ε
  /-- How many writes the repository had accepted when the client got the copy from it, by reading
  or by writing. There is no such number while the aggregate is only the client's own. -/
  obtained : Option Nat

/-- What a client does. The copies of all clients are in one list, and those that a client works
with are named by their places `n` in it. An `edit` changes all of a copy that is up to clients. -/
inductive Action (σ ε : Type) where
  | create (id : EntityId) (state : σ)
  | edit (n : Nat) (state : σ) (events : Recorder ε)
  | duplicate (n : Nat)
  | get (id : EntityId)
  | load (id : EntityId)
  | find (s : Specification (Aggregate σ ε))
  | add (n : Nat)
  | update (n : Nat)
  | remove (id : EntityId) (expected : ExpectedVersion)

/-- A `repository` with the `copies` of its clients and the `log` of the writes that it has
accepted. -/
structure Circulation (ρ σ ε : Type) where
  repository : ρ
  copies : List (Copy σ ε)
  log : List AcceptedWrite

namespace Circulation

variable {ρ σ ε : Type}

/-- No client has a copy yet, and nothing has been entered into the log. -/
def start (r : ρ) : Circulation ρ σ ε :=
  ⟨r, [], []⟩

/-- A client gets the aggregates `as` from the repository. -/
def receive (c : Circulation ρ σ ε) (as : List (Aggregate σ ε)) : Circulation ρ σ ε :=
  { c with copies := c.copies ++ as.map fun a => ⟨a, some c.log.length⟩ }

/-- What comes of writing the copy at the place `n`. If the write `w` is refused, the client has
what it had. -/
def written (c : Circulation ρ σ ε) (n : Nat) (w : AcceptedWrite) :
    Except RepositoryError (Aggregate σ ε) × ρ → Circulation ρ σ ε
  | (.ok a, r) => ⟨r, c.copies.set n ⟨a, some (c.log.length + 1)⟩, c.log ++ [w]⟩
  | (.error _, r) => { c with repository := r }

/-- What comes of a removal, which leaves all copies as they are. -/
def removed (c : Circulation ρ σ ε) (id : EntityId) :
    Except RepositoryError Unit × ρ → Circulation ρ σ ε
  | (.ok (), r) => ⟨r, c.copies, c.log ++ [.remove id]⟩
  | (.error _, r) => { c with repository := r }

variable [Repository ρ σ ε] [AggregateKind σ]

/-- What comes of one action. One with a place where no copy is does nothing. -/
def perform (c : Circulation ρ σ ε) : Action σ ε → Circulation ρ σ ε
  | .create id state => { c with copies := c.copies ++ [⟨⟨id, 0, state, .empty⟩, none⟩] }
  | .edit n state events =>
    { c with
      copies := c.copies.modify n fun copy =>
        { copy with aggregate := { copy.aggregate with state, events } } }
  | .duplicate n => { c with copies := c.copies ++ c.copies[n]?.toList }
  | .get id =>
    match Repository.get c.repository id with
    | .ok found => c.receive found.toList
    | .error _ => c
  | .load id =>
    match Repository.load c.repository id with
    | .ok a => c.receive [a]
    | .error _ => c
  | .find s =>
    match Repository.find c.repository s with
    | .ok found => c.receive found
    | .error _ => c
  | .add n =>
    match c.copies[n]? with
    | some copy =>
      c.written n (.add copy.aggregate.id) (Repository.add c.repository copy.aggregate)
    | none => c
  | .update n =>
    match c.copies[n]? with
    | some copy =>
      c.written n (.update copy.aggregate.id) (Repository.update c.repository copy.aggregate)
    | none => c
  | .remove id expected => c.removed id (Repository.remove c.repository id expected)

/-- What comes of `actions`, one after the other. -/
def run (c : Circulation ρ σ ε) (actions : List (Action σ ε)) : Circulation ρ σ ε :=
  actions.foldl perform c

end Circulation

/-! ## Where copies come from -/

namespace Copy

variable {σ ε : Type} {copy : Copy σ ε} {log : List AcceptedWrite} {V : Versions}

/-- If the `copy` was obtained after `t` writes of the `log`, its version was the stored one then.
After the rest of the `log` the versions are `V`. -/
def IsFrom (copy : Copy σ ε) (log : List AcceptedWrite) (V : Versions) : Prop :=
  ∀ t, copy.obtained = some t → t ≤ log.length ∧
    ∃ Vₜ, Evolves (fun _ => none) (log.take t) Vₜ ∧
      Vₜ copy.aggregate.id = some copy.aggregate.version ∧ Evolves Vₜ (log.drop t) V

/-- A copy is where it was from after one more write `w`. -/
theorem IsFrom.concat (h : copy.IsFrom log V) {w : AcceptedWrite} {V' : Versions}
    (hw : w.Leads V V') : copy.IsFrom (log ++ [w]) V' := by
  intro t ht
  obtain ⟨hle, Vₜ, hbefore, hversion, hafter⟩ := h t ht
  have hlength : t ≤ (log ++ [w]).length := by
    rw [List.length_append]
    exact Nat.le_add_right_of_le hle
  refine ⟨hlength, Vₜ, ?_, hversion, ?_⟩
  · rw [List.take_append_of_le_length hle]
    exact hbefore
  · rw [List.drop_append_of_le_length hle]
    exact hafter.concat hw

theorem isFrom_now (hlog : Evolves (fun _ => none) log V) {a : Aggregate σ ε}
    (hversion : V a.id = some a.version) : IsFrom ⟨a, some log.length⟩ log V := by
  intro t ht
  obtain rfl := Option.some.inj ht
  refine ⟨Nat.le_refl _, V, ?_, hversion, ?_⟩
  · rw [List.take_length]
    exact hlog
  · rw [List.drop_length]
    exact .nil V

end Copy

namespace Circulation

variable {ρ σ ε : Type} [Repository ρ σ ε] [AggregateKind σ] [VersionGuarded ρ]
  [VersionRevealing ρ] {c : Circulation ρ σ ε}

open VersionGuarded (versions)

/-- The `log` of `c` tells which versions are stored, and each copy is from where it is said to be.
-/
structure IsSound (c : Circulation ρ σ ε) : Prop where
  repository : VersionRevealing.IsSound c.repository
  log : Evolves (fun _ => none) c.log (versions c.repository)
  copies : ∀ copy ∈ c.copies, copy.IsFrom c.log (versions c.repository)

/-- What clients do among themselves is sound as long as they make up no origins of `copies`. -/
theorem IsSound.withCopies (h : c.IsSound) {copies : List (Copy σ ε)}
    (hcopies : ∀ copy ∈ copies, copy.IsFrom c.log (versions c.repository)) :
    IsSound { c with copies } :=
  ⟨h.repository, h.log, hcopies⟩

theorem IsSound.receive (h : c.IsSound) {as : List (Aggregate σ ε)}
    (has : ∀ a ∈ as, versions c.repository a.id = some a.version) : (c.receive as).IsSound := by
  refine h.withCopies fun copy hcopy => ?_
  rcases List.mem_append.mp hcopy with hold | hnew
  · exact h.copies copy hold
  · obtain ⟨a, ha, rfl⟩ := List.mem_map.mp hnew
    exact Copy.isFrom_now h.log (has a ha)

theorem IsSound.refused (h : c.IsSound) {r : ρ} (hr : VersionRevealing.IsSound r)
    (hversions : versions r = versions c.repository) : IsSound { c with repository := r } where
  repository := hr
  log := hversions ▸ h.log
  copies := hversions ▸ h.copies

/-- An accepted write is entered into the log, and the copies stay what they were. -/
theorem IsSound.accepted (h : c.IsSound) {r : ρ} (hr : VersionRevealing.IsSound r)
    {w : AcceptedWrite} (hw : w.Leads (versions c.repository) (versions r)) :
    IsSound ⟨r, c.copies, c.log ++ [w]⟩ where
  repository := hr
  log := h.log.concat hw
  copies copy hcopy := (h.copies copy hcopy).concat hw

/-- The copy that was written has the version that is stored now. -/
theorem IsSound.stamped (h : c.IsSound) {r : ρ} (hr : VersionRevealing.IsSound r)
    {w : AcceptedWrite} (hw : w.Leads (versions c.repository) (versions r)) {a : Aggregate σ ε}
    (ha : versions r a.id = some a.version) (n : Nat) :
    IsSound ⟨r, c.copies.set n ⟨a, some (c.log.length + 1)⟩, c.log ++ [w]⟩ := by
  have hlog := h.accepted hr hw
  refine hlog.withCopies fun copy hcopy => ?_
  rcases List.mem_or_eq_of_mem_set hcopy with hold | rfl
  · exact hlog.copies copy hold
  · have hlength : (c.log ++ [w]).length = c.log.length + 1 := List.length_append
    rw [← hlength]
    exact Copy.isFrom_now hlog.log ha

theorem IsSound.add (h : c.IsSound) (n : Nat) : (c.perform (.add n)).IsSound := by
  rw [perform]
  split
  · next copy _ =>
    have hr := VersionRevealing.isSound_add h.repository copy.aggregate
    rcases VersionGuarded.add_cases c.repository copy.aggregate with
      ⟨e, r, hadd, hversions⟩ | ⟨r, hadd, hnone, hversions⟩
    · rw [hadd] at hr ⊢
      exact h.refused hr hversions
    · rw [hadd] at hr ⊢
      refine h.stamped hr (hversions ▸ .add hnone) ?_ n
      rw [hversions]
      exact Function.update_self _ _ _
  · exact h

theorem IsSound.update (h : c.IsSound) (n : Nat) : (c.perform (.update n)).IsSound := by
  rw [perform]
  split
  · next copy _ =>
    have hr := VersionRevealing.isSound_update h.repository copy.aggregate
    rcases VersionGuarded.update_cases c.repository copy.aggregate with
      ⟨-, cause, hupdate⟩ | ⟨-, ⟨-, r, hupdate, hversions⟩ | ⟨v, -, -, hupdate⟩ |
        ⟨r, hupdate, hcurrent, hversions⟩⟩
    · rw [hupdate] at hr ⊢
      exact h.refused hr rfl
    · rw [hupdate] at hr ⊢
      exact h.refused hr hversions
    · rw [hupdate] at hr ⊢
      exact h.refused hr rfl
    · rw [hupdate] at hr ⊢
      refine h.stamped hr (hversions ▸ .update hcurrent) ?_ n
      rw [hversions]
      exact Function.update_self _ _ _
  · exact h

theorem IsSound.remove (h : c.IsSound) (id : EntityId) (expected : ExpectedVersion) :
    (c.perform (.remove id expected)).IsSound := by
  rw [perform]
  have hr := VersionRevealing.isSound_remove h.repository id expected
  rcases VersionGuarded.remove_cases c.repository id expected with
    ⟨-, r, hremove, hversions⟩ | ⟨v, -, -, hremove⟩ | ⟨v, r, hremove, hstored, -, hversions⟩
  · rw [hremove] at hr ⊢
    exact h.refused hr hversions
  · rw [hremove] at hr ⊢
    exact h.refused hr rfl
  · rw [hremove] at hr ⊢
    exact h.accepted hr (hversions ▸ .remove hstored)

/-- Every `action` preserves soundness. -/
theorem IsSound.perform (h : c.IsSound) (action : Action σ ε) : (c.perform action).IsSound := by
  cases action with
  | create id state =>
    refine h.withCopies fun copy hcopy => ?_
    rcases List.mem_append.mp hcopy with hold | hnew
    · exact h.copies copy hold
    · rw [List.mem_singleton.mp hnew]
      exact nofun
  | edit n state events =>
    refine h.withCopies fun copy hcopy => ?_
    obtain ⟨k, hk⟩ := List.mem_iff_getElem?.mp hcopy
    rw [List.getElem?_modify] at hk
    obtain ⟨old, hold, hedited⟩ := Option.map_eq_some_iff.mp hk
    have hfrom := h.copies old (List.mem_of_getElem? hold)
    split at hedited
    · rw [← hedited]
      exact hfrom
    · rw [← hedited]
      exact hfrom
  | duplicate n =>
    refine h.withCopies fun copy hcopy => ?_
    rcases List.mem_append.mp hcopy with hold | hnew
    · exact h.copies copy hold
    · exact h.copies copy (List.mem_of_getElem? (Option.mem_toList.mp hnew))
  | get id =>
    rw [Circulation.perform]
    split
    · next found hget =>
      refine h.receive fun a ha => ?_
      rw [Option.mem_toList.mp ha] at hget
      exact VersionRevealing.versions_of_get h.repository hget
    · exact h
  | load id =>
    rw [Circulation.perform]
    split
    · next a hload =>
      refine h.receive fun b hb => ?_
      obtain rfl := List.mem_singleton.mp hb
      unfold Repository.load at hload
      split at hload
      · next found hget =>
        obtain rfl := Except.ok.inj hload
        exact VersionRevealing.versions_of_get h.repository hget
      · cases hload
      · cases hload
    · exact h
  | find s =>
    rw [Circulation.perform]
    split
    · next found hfind =>
      exact h.receive fun a ha => VersionRevealing.versions_of_find h.repository hfind ha
    · exact h
  | add n => exact h.add n
  | update n => exact h.update n
  | remove id expected => exact h.remove id expected

/-- All `actions` preserve soundness. -/
theorem IsSound.run (h : c.IsSound) (actions : List (Action σ ε)) : (c.run actions).IsSound := by
  induction actions generalizing c with
  | nil => exact h
  | cons action rest ih => exact ih (h.perform action)

theorem isSound_start {r : ρ} (hr : VersionRevealing.IsSound r)
    (hempty : versions r = fun _ => none) : (start r : Circulation ρ σ ε).IsSound where
  repository := hr
  log := hempty ▸ .nil _
  copies := nofun

end Circulation

/-! ## What a repository makes of a copy -/

namespace Repository

open VersionGuarded (versions)

variable {ρ σ ε : Type} [Repository ρ σ ε] [AggregateKind σ] [VersionGuarded ρ]

/-- The copy `a` is refused because another version is stored, and nothing changes. -/
structure RefusesAsStale (r : ρ) (a : Aggregate σ ε) : Prop where
  update (hwritable : VersionGuarded.IsWritable ρ (a.atVersion (a.version + 1))) :
    ∃ v, update r a = (.error (.concurrency (.staleVersion (.exact a.version) v)), r)
  remove : ∃ v, remove r a.id (.exact a.version) =
    (.error (.concurrency (.staleVersion (.exact a.version) v)), r)

/-- The copy `a` is taken for one of what is stored in `r`. -/
structure TakesAsCurrent (r : ρ) (a : Aggregate σ ε) : Prop where
  update (hwritable : VersionGuarded.IsWritable ρ (a.atVersion (a.version + 1))) :
    (update r a).1 = .ok (a.atVersion (a.version + 1))
  remove : (remove r a.id (.exact a.version)).1 = .ok ()

/-- The copy `a` is refused because nothing is stored that it could be a copy of. -/
structure RefusesAsMissing (r : ρ) (a : Aggregate σ ε) : Prop where
  update (hwritable : VersionGuarded.IsWritable ρ (a.atVersion (a.version + 1))) :
    (update r a).1 = .error (AggregateKind.notFound σ a.id)
  remove : (remove r a.id (.exact a.version)).1 = .error (AggregateKind.notFound σ a.id)

variable {r r' : ρ} {a b : Aggregate σ ε}

theorem refusesAsStale {v : UInt64} (h : versions r a.id = some v) (hne : v ≠ a.version) :
    RefusesAsStale r a where
  update hwritable := by
    rcases VersionGuarded.update_cases r a with
      ⟨hunwritable, -⟩ | ⟨-, ⟨hnone, -⟩ | ⟨u, -, -, hupdate⟩ | ⟨-, -, hcurrent, -⟩⟩
    · exact absurd hwritable hunwritable
    · cases h.symm.trans hnone
    · exact ⟨u, hupdate⟩
    · exact absurd (Option.some.inj (h.symm.trans hcurrent)) hne
  remove := by
    rcases VersionGuarded.remove_cases r a.id (.exact a.version) with
      ⟨hnone, -⟩ | ⟨u, -, -, hremove⟩ | ⟨u, -, -, hstored, haccepts, -⟩
    · cases h.symm.trans hnone
    · exact ⟨u, hremove⟩
    · obtain rfl := Option.some.inj (h.symm.trans hstored)
      exact absurd (ExpectedVersion.accepts_exact.mp haccepts) hne

/-- A copy `a` with the stored version is updated, and the stored version is that of the answer. -/
theorem exists_update_of_current (h : versions r a.id = some a.version)
    (hwritable : VersionGuarded.IsWritable ρ (a.atVersion (a.version + 1))) :
    ∃ r', update r a = (.ok (a.atVersion (a.version + 1)), r') ∧
      versions r' a.id = some (a.version + 1) := by
  rcases VersionGuarded.update_cases r a with
    ⟨hunwritable, -⟩ | ⟨-, ⟨hnone, -⟩ | ⟨v, hstored, hne, -⟩ | ⟨r', hupdate, -, hversions⟩⟩
  · exact absurd hwritable hunwritable
  · cases h.symm.trans hnone
  · exact absurd (Option.some.inj (hstored.symm.trans h)) hne
  · refine ⟨r', hupdate, ?_⟩
    rw [hversions]
    exact Function.update_self _ _ _

theorem takesAsCurrent (h : versions r a.id = some a.version) : TakesAsCurrent r a where
  update hwritable := by
    obtain ⟨r', hupdate, -⟩ := exists_update_of_current h hwritable
    rw [hupdate]
  remove := by
    rcases VersionGuarded.remove_cases r a.id (.exact a.version) with
      ⟨hnone, -⟩ | ⟨v, hstored, hrefused, -⟩ | ⟨v, r', hremove, -, -, -⟩
    · cases h.symm.trans hnone
    · obtain rfl := Option.some.inj (h.symm.trans hstored)
      rw [ExpectedVersion.accepts_exact.mpr rfl] at hrefused
      cases hrefused
    · rw [hremove]

theorem refusesAsMissing (h : versions r a.id = none) : RefusesAsMissing r a where
  update hwritable := by
    rcases VersionGuarded.update_cases r a with
      ⟨hunwritable, -⟩ | ⟨-, ⟨-, r', hupdate, -⟩ | ⟨v, hstored, -, -⟩ | ⟨r', -, hstored, -⟩⟩
    · exact absurd hwritable hunwritable
    · rw [hupdate]
    · cases h.symm.trans hstored
    · cases h.symm.trans hstored
  remove := by
    rcases VersionGuarded.remove_cases r a.id (.exact a.version) with
      ⟨-, r', hremove, -⟩ | ⟨v, hstored, -, -⟩ | ⟨v, r', -, hstored, -, -⟩
    · rw [hremove]
    · cases h.symm.trans hstored
    · cases h.symm.trans hstored

/-- An accepted update was made from the stored version, which it makes grow by one. -/
theorem versions_of_update (h : update r a = (.ok b, r')) :
    versions r a.id = some a.version ∧ versions r' a.id = some (a.version + 1) := by
  rcases VersionGuarded.update_cases r a with
    ⟨-, cause, hupdate⟩ | ⟨-, ⟨-, r'', hupdate, -⟩ | ⟨v, -, -, hupdate⟩ |
      ⟨r'', hupdate, hcurrent, hversions⟩⟩
  · cases hupdate.symm.trans h
  · cases hupdate.symm.trans h
  · cases hupdate.symm.trans h
  · cases hupdate.symm.trans h
    refine ⟨hcurrent, ?_⟩
    rw [hversions]
    exact Function.update_self _ _ _

/-! ## No lost updates -/

/-- Whatever clients do, starting from the repository `r`: if an update of a `copy` that was obtained
after `t` writes is accepted, and the aggregate was not removed since then, then the number of other
updates of it that were accepted since then is a multiple of `2 ^ 64`, so that there is none if there
are fewer, and the stored version grows by one. Versions are of type `UInt64` and start again from
zero, which is where the bound comes from. -/
def KeepsUpdates (r : ρ) : Prop :=
  ∀ (actions : List (Action σ ε)) (copy : Copy σ ε) (t : Nat) (b : Aggregate σ ε) (r' : ρ),
    let c := (Circulation.start r).run actions
    let a := copy.aggregate
    copy ∈ c.copies → copy.obtained = some t → .remove a.id ∉ c.log.drop t →
      update c.repository a = (.ok b, r') →
        2 ^ 64 ∣ (c.log.drop t).count (.update a.id) ∧
          ((c.log.drop t).count (.update a.id) < 2 ^ 64 → .update a.id ∉ c.log.drop t) ∧
          ∃ v, versions c.repository a.id = some v ∧ versions r' a.id = some (v + 1)

/-- The stored version is that of the copy, and each update since the copy was obtained made it grow
by one. So the number of these updates is a multiple of `2 ^ 64`. -/
theorem keepsUpdates [VersionRevealing ρ] (hr : VersionRevealing.IsSound r)
    (hempty : versions r = fun _ => none) : KeepsUpdates r := by
  intro actions copy t b r' c a hcopy ht hkept hupdate
  have hsound : c.IsSound := (Circulation.isSound_start hr hempty).run actions
  obtain ⟨-, Vₜ, -, hversion, hafter⟩ := hsound.copies copy hcopy t ht
  obtain ⟨hcurrent, hnext⟩ := versions_of_update hupdate
  have hdvd : 2 ^ 64 ∣ (c.log.drop t).count (.update a.id) :=
    Nat.dvd_of_mod_eq_zero (Evolves.count_of_same_version hafter hversion hkept hcurrent)
  refine ⟨hdvd, ?_, a.version, hcurrent, hnext⟩
  intro hfew hmem
  have hpos := List.count_pos_iff.mpr hmem
  exact absurd (Nat.le_of_dvd hpos hdvd) (Nat.not_le_of_lt hfew)

/-- A client who has the current copy of an aggregate at the place `k` updates it `n` times. All of
the updates are accepted, the version grows by `n`, and the copies at other places stay as they are. -/
theorem run_updates {c : Circulation ρ σ ε} {k : Nat} {copy : Copy σ ε}
    (hcopy : c.copies[k]? = some copy)
    (hcurrent : versions c.repository copy.aggregate.id = some copy.aggregate.version)
    (hwritable : ∀ v, VersionGuarded.IsWritable ρ (copy.aggregate.atVersion v)) (n : Nat) :
    let after := c.run (List.replicate n (.update k))
    after.log = c.log ++ List.replicate n (.update copy.aggregate.id) ∧
      versions after.repository copy.aggregate.id =
        some (copy.aggregate.version + UInt64.ofNat n) ∧
      ∀ j, j ≠ k → after.copies[j]? = c.copies[j]? := by
  induction n generalizing c copy with
  | zero =>
    refine ⟨(List.append_nil _).symm, ?_, fun _ _ => rfl⟩
    have hzero : UInt64.ofNat 0 = 0 := rfl
    rw [hzero, UInt64.add_zero]
    exact hcurrent
  | succ n ih =>
    intro after
    obtain ⟨r', hupdate, hstored⟩ := exists_update_of_current hcurrent (hwritable _)
    let written : Copy σ ε := ⟨copy.aggregate.atVersion (copy.aggregate.version + 1),
      some (c.log.length + 1)⟩
    have hstep : c.perform (.update k) =
        ⟨r', c.copies.set k written, c.log ++ [.update copy.aggregate.id]⟩ := by
      simp only [Circulation.perform, hcopy, hupdate]
      rfl
    have hlt : k < c.copies.length := (List.getElem?_eq_some_iff.mp hcopy).1
    have hown : (c.perform (.update k)).copies[k]? = some written := by
      rw [hstep]
      exact List.getElem?_set_self hlt
    have hcurrent' : versions (c.perform (.update k)).repository written.aggregate.id =
        some written.aggregate.version := by
      rw [hstep]
      exact hstored
    obtain ⟨hlog, hversion, hothers⟩ := ih hown hcurrent' hwritable
    refine ⟨?_, ?_, ?_⟩
    · have hlogged : (c.perform (.update k)).log = c.log ++ [.update copy.aggregate.id] := by
        rw [hstep]
      rw [hlogged] at hlog
      rw [List.replicate_succ, List.append_cons]
      exact hlog
    · refine hversion.trans (congrArg some ?_)
      rw [UInt64.ofNat_add, UInt64.ofNat_one, UInt64.add_comm (UInt64.ofNat n), ← UInt64.add_assoc]
      rfl
    · intro j hj
      refine (hothers j hj).trans ?_
      rw [hstep]
      exact List.getElem?_set_ne (Ne.symm hj)

/-! ## Earlier lives -/

/-- Whatever clients do, starting from the repository `r`: let `a` be a copy of an aggregate that
was removed and added again since the client got it. If the new aggregate is still there, then `a`
is refused as stale, unless the numbers of updates `old` and `new` are equal modulo `2 ^ 64`: the
first one counts those of the old aggregate until the client got the copy, the second one those of
the new aggregate. A copy that cannot be written is no matter of versions, and if the new aggregate
was removed too, there is nothing that the copy could be taken for. -/
def JudgesOldCopies (r : ρ) : Prop :=
  ∀ (actions : List (Action σ ε)) (copy : Copy σ ε) (t : Nat) (l₁ l₂ l₃ : List AcceptedWrite),
    let c := (Circulation.start r).run actions
    let a := copy.aggregate
    copy ∈ c.copies → copy.obtained = some t →
      c.log.drop t = l₁ ++ .remove a.id :: (l₂ ++ .add a.id :: l₃) →
        (¬ VersionGuarded.IsWritable ρ (a.atVersion (a.version + 1)) →
          ∃ cause, update c.repository a = (.error (.serialization cause), c.repository)) ∧
        (versions c.repository a.id = none → RefusesAsMissing c.repository a) ∧
        (.remove a.id ∉ l₃ →
          let old := updatesSinceAdd a.id (c.log.take t)
          let new := l₃.count (.update a.id)
          (old % 2 ^ 64 ≠ new % 2 ^ 64 → RefusesAsStale c.repository a) ∧
            (old % 2 ^ 64 = new % 2 ^ 64 → TakesAsCurrent c.repository a))

/-- The version of a copy counts the updates of the old aggregate, and the stored one those of the
new. -/
theorem judgesOldCopies [VersionRevealing ρ] (hr : VersionRevealing.IsSound r)
    (hempty : versions r = fun _ => none) : JudgesOldCopies r := by
  intro actions copy t l₁ l₂ l₃ c a hcopy ht hlog
  have hsound : c.IsSound := (Circulation.isSound_start hr hempty).run actions
  obtain ⟨-, Vₜ, hbefore, hversion, hafter⟩ := hsound.copies copy hcopy t ht
  refine ⟨fun hunwritable => ?_, refusesAsMissing, fun hkept => ?_⟩
  · rcases VersionGuarded.update_cases c.repository a with ⟨-, hrefused⟩ | ⟨hwritable, -⟩
    · exact hrefused
    · exact absurd hwritable hunwritable
  · intro old new
    have hold : a.version = 1 + UInt64.ofNat old := hbefore.version_eq_updatesSinceAdd hversion
    have hsplit : c.log.drop t = (l₁ ++ .remove a.id :: l₂) ++ .add a.id :: l₃ := by
      rw [hlog, List.append_assoc, List.cons_append]
    have hnew : versions c.repository a.id = some (1 + UInt64.ofNat new) :=
      (hsplit ▸ hafter).version_of_added hkept
    have hiff : 1 + UInt64.ofNat new = a.version ↔ old % 2 ^ 64 = new % 2 ^ 64 := by
      rw [hold, UInt64.add_right_inj, UInt64.ofNat_eq_iff_mod_eq_toNat, UInt64.toNat_ofNat']
      exact eq_comm
    refine ⟨fun hne => refusesAsStale hnew (mt hiff.mp hne), fun heq => takesAsCurrent ?_⟩
    rw [hnew, hiff.mpr heq]

end Repository

/-! ## Both kinds of repositories -/

namespace Customer

instance : KeepsIdentifier CustomerProfile CustomerEvent where
  id_eq {a b body} hstore hdecode := by
    obtain ⟨members, rfl, hkept⟩ := isKeptAs_of_store hstore
    exact id_of_decode_kept hkept hdecode

end Customer

namespace Repository

open VersionGuarded (versions)

variable {σ ε : Type} [AggregateKind σ] [Record (Aggregate σ ε)] [JsonCodec (Aggregate σ ε)]
  [KeepsIdentifier σ ε]

/-- In memory and in a store of documents `KeepsUpdates` holds of the empty repository. -/
theorem no_update_is_lost :
    KeepsUpdates (MemoryRepository.empty : MemoryRepository σ ε) ∧
      KeepsUpdates (DocumentRepository.empty : DocumentRepository σ ε) :=
  ⟨keepsUpdates MemoryRepository.isKeyed_empty rfl,
    keepsUpdates DocumentRepository.Reachable.empty rfl⟩

/-- One client adds a customer and updates it, another one gets it before the update and loads it
again after it. The `copy` that was loaded can be written. -/
theorem no_update_is_lost_customer :
    let id : EntityId := ⟨⟨7, by decide⟩⟩
    let actions := [.create id .blank, .add 0, .get id, .update 0, .load id]
    let copy : Copy CustomerProfile CustomerEvent := ⟨⟨id, 2, .blank, .empty⟩, some 2⟩
    let c : Circulation (MemoryRepository CustomerProfile CustomerEvent) _ _ :=
      (Circulation.start .empty).run actions
    (copy ∈ c.copies ∧ .remove id ∉ c.log.drop 2 ∧
      ∃ b r', update c.repository copy.aggregate = (.ok b, r') ∧ .update id ∉ c.log.drop 2 ∧
        ∃ v, versions c.repository id = some v ∧ versions r' id = some (v + 1)) ∧
      KeepsUpdates (.empty : DocumentRepository CustomerProfile CustomerEvent) := by
  intro id actions copy c
  have hcopy : copy ∈ c.copies := List.mem_of_getElem? (i := 2) rfl
  have hkept : .remove id ∉ c.log.drop 2 := nofun
  have hfew : (c.log.drop 2).count (.update id) < 2 ^ 64 := by
    show 0 < 2 ^ 64
    decide
  obtain ⟨-, hnone, hversion⟩ := no_update_is_lost.1 actions copy 2 _ _ hcopy rfl hkept rfl
  exact ⟨⟨hcopy, hkept, _, _, rfl, hnone hfew, hversion⟩, no_update_is_lost.2⟩

/-- A copy can overwrite updates that came after it. That happens when the aggregate has been updated
`2 ^ 64` times since then, so that its version is that of the copy again, and when the client puts
the copy under an `other` identifier, whose version happens to be that of the copy. -/
theorem update_overwrites_updates :
    let id : EntityId := ⟨⟨7, by decide⟩⟩
    let other : EntityId := ⟨⟨8, by decide⟩⟩
    (let actions := [.create id .blank, .add 0, .get id] ++ List.replicate (2 ^ 64) (.update 0)
      let copy : Copy CustomerProfile CustomerEvent := ⟨⟨id, 1, .blank, .empty⟩, some 1⟩
      let c : Circulation (MemoryRepository CustomerProfile CustomerEvent) _ _ :=
        (Circulation.start .empty).run actions
      copy ∈ c.copies ∧ c.log.drop 1 = List.replicate (2 ^ 64) (.update id) ∧
        (update c.repository copy.aggregate).1 = .ok (copy.aggregate.atVersion 2)) ∧
    (let actions := [.create id .blank, .add 0, .update 0, .create other .blank, .add 1, .get id,
        .update 1]
      let copy : Copy CustomerProfile CustomerEvent := ⟨⟨id, 2, .blank, .empty⟩, some 3⟩
      let c : Circulation (MemoryRepository CustomerProfile CustomerEvent) _ _ :=
        (Circulation.start .empty).run actions
      copy ∈ c.copies ∧ c.log.drop 3 = [.update other] ∧
        (update c.repository { copy.aggregate with id := other }).1 =
          .ok ⟨other, 3, .blank, .empty⟩) := by
  intro id other
  constructor
  · intro actions copy c
    let added : Circulation (MemoryRepository CustomerProfile CustomerEvent) _ _ :=
      (Circulation.start .empty).run [.create id .blank, .add 0, .get id]
    have hrun : c = added.run (List.replicate (2 ^ 64) (.update 0)) := List.foldl_append
    have hown : added.copies[0]? = some copy := rfl
    have hcopy : added.copies[1]? = some copy := rfl
    have hcurrent : versions added.repository copy.aggregate.id = some copy.aggregate.version := rfl
    obtain ⟨hlog, hversion, hothers⟩ := run_updates hown hcurrent (fun _ => trivial) (2 ^ 64)
    rw [← hrun] at hlog hversion hothers
    have hwrapped : UInt64.ofNat (2 ^ 64) = 0 := by decide
    rw [hwrapped, UInt64.add_zero] at hversion
    refine ⟨List.mem_of_getElem? ((hothers 1 (by decide)).trans hcopy), ?_, ?_⟩
    · rw [hlog]
      rfl
    · exact (takesAsCurrent hversion).update trivial
  · intro actions copy c
    have hcopy : copy ∈ c.copies := List.mem_of_getElem? (i := 2) rfl
    exact ⟨hcopy, rfl, rfl⟩

/-- In memory and in a store of documents `JudgesOldCopies` holds of the empty repository. -/
theorem old_copies_are_judged :
    JudgesOldCopies (MemoryRepository.empty : MemoryRepository σ ε) ∧
      JudgesOldCopies (DocumentRepository.empty : DocumentRepository σ ε) :=
  ⟨judgesOldCopies MemoryRepository.isKeyed_empty rfl,
    judgesOldCopies DocumentRepository.Reachable.empty rfl⟩

/-- A customer is removed and added again, and the new customer is updated. The copy of the old one,
which was not, is stale. -/
theorem old_copies_are_judged_customer :
    let id : EntityId := ⟨⟨7, by decide⟩⟩
    let actions :=
      [.create id .blank, .add 0, .get id, .remove id .any, .create id .blank, .add 2, .update 2]
    let copy : Copy CustomerProfile CustomerEvent := ⟨⟨id, 1, .blank, .empty⟩, some 1⟩
    let c : Circulation (MemoryRepository CustomerProfile CustomerEvent) _ _ :=
      (Circulation.start .empty).run actions
    (copy ∈ c.copies ∧ c.log.drop 1 = [.remove id, .add id, .update id] ∧
      RefusesAsStale c.repository copy.aggregate) ∧
      JudgesOldCopies (.empty : DocumentRepository CustomerProfile CustomerEvent) := by
  intro id actions copy c
  have hcopy : copy ∈ c.copies := List.mem_of_getElem? (i := 1) rfl
  have hkept : .remove id ∉ [AcceptedWrite.update id] := by simp
  have hjudged := old_copies_are_judged.1 actions copy 1 [] [] [.update id] hcopy rfl rfl
  exact ⟨⟨hcopy, rfl, (hjudged.2.2 hkept).1 (by decide)⟩, old_copies_are_judged.2⟩

/-- A copy of a removed customer can pass for one of a new customer with the same identifier. Then
the new customer is overwritten by the old one, or removed in its place. -/
theorem old_copy_replaces_customer :
    let id : EntityId := ⟨⟨7, by decide⟩⟩
    let old : CustomerProfile := { CustomerProfile.blank with firstName := "Old" }
    let actions := [.create id old, .add 0, .get id, .remove id .any, .create id .blank, .add 2]
    let copy : Copy CustomerProfile CustomerEvent := ⟨⟨id, 1, old, .empty⟩, some 1⟩
    let c : Circulation (MemoryRepository CustomerProfile CustomerEvent) _ _ :=
      (Circulation.start .empty).run actions
    copy ∈ c.copies ∧ c.log.drop 1 = [.remove id, .add id] ∧
      Repository.get c.repository id = .ok (some ⟨id, 1, .blank, .empty⟩) ∧
      (update c.repository copy.aggregate).1 = .ok (copy.aggregate.atVersion 2) ∧
      Repository.get (update c.repository copy.aggregate).2 id = .ok (some ⟨id, 2, old, .empty⟩) ∧
      (remove c.repository id (.exact copy.aggregate.version)).1 = .ok () := by
  intro id old actions copy c
  have hcopy : copy ∈ c.copies := List.mem_of_getElem? (i := 1) rfl
  exact ⟨hcopy, rfl, rfl, rfl, rfl, rfl⟩

end Repository

end Quarry
