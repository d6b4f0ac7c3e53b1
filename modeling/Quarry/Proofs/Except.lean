/-!
# Computations that may fail

A sequence of computations gives a result just if each of them does.
-/

namespace Quarry

variable {ε α β : Type}

theorem bind_eq_ok_iff {x : Except ε α} {f : α → Except ε β} {b : β} :
    x >>= f = .ok b ↔ ∃ a, x = .ok a ∧ f a = .ok b := by
  constructor
  · intro h
    cases x with
    | error e => cases h
    | ok a => exact ⟨a, rfl, h⟩
  · rintro ⟨a, rfl, h⟩
    exact h

theorem map_eq_ok_iff {x : Except ε α} {f : α → β} {b : β} :
    x.map f = .ok b ↔ ∃ a, x = .ok a ∧ f a = b := by
  constructor
  · intro h
    cases x with
    | error e => cases h
    | ok a => exact ⟨a, rfl, Except.ok.inj h⟩
  · rintro ⟨a, rfl, h⟩
    exact congrArg Except.ok h

theorem bind_ok_eq_map (x : Except ε α) (f : α → β) : (x >>= fun a => .ok (f a)) = x.map f := by
  cases x <;> rfl

/-- A computation `x` has the outcome of a `check` if both succeed, `x` with the stated result, or
both fail alike. -/
theorem map_eq_map_const_iff {x : Except ε α} {check : Except ε Unit} {f : α → β} {b : β} :
    x.map f = check.map (fun _ => b) ↔
      (∃ a, x = .ok a ∧ f a = b ∧ check = .ok ()) ∨ ∃ e, x = .error e ∧ check = .error e := by
  constructor
  · intro h
    cases x with
    | error e =>
      cases check with
      | error e' => exact Or.inr ⟨e, rfl, congrArg Except.error (Except.error.inj h).symm⟩
      | ok u => cases h
    | ok a =>
      cases check with
      | error e' => cases h
      | ok u => exact Or.inl ⟨a, rfl, Except.ok.inj h, rfl⟩
  · rintro (⟨a, rfl, rfl, rfl⟩ | ⟨e, rfl, rfl⟩) <;> rfl

theorem mapError_eq_ok_iff {ε' : Type} {f : ε → ε'} {x : Except ε α} {a : α} :
    x.mapError f = .ok a ↔ x = .ok a := by
  constructor
  · intro h
    cases x with
    | error e => cases h
    | ok b => exact congrArg Except.ok (Except.ok.inj h)
  · rintro rfl
    rfl

theorem mapError_eq_mapError_iff {ε' : Type} {f : ε → ε'} (hf : ∀ a b, f a = f b → a = b)
    {x y : Except ε α} : x.mapError f = y.mapError f ↔ x = y := by
  constructor
  · intro h
    cases x with
    | error e =>
      cases y with
      | error e' => exact congrArg Except.error (hf e e' (Except.error.inj h))
      | ok b => cases h
    | ok a =>
      cases y with
      | error e' => cases h
      | ok b => exact congrArg Except.ok (Except.ok.inj h)
  · intro h
    rw [h]

/-- The list `as` is got back from the results for its elements if `g` gets each element back from
its own. -/
theorem map_of_mapM_eq_ok {f : α → Except ε β} {g : β → α} (hg : ∀ a b, f a = .ok b → g b = a)
    {as : List α} {bs : List β} (h : as.mapM f = .ok bs) : bs.map g = as := by
  induction as generalizing bs with
  | nil =>
    cases h
    rfl
  | cons a as ih =>
    rw [List.mapM_cons] at h
    obtain ⟨b, hb, h⟩ := bind_eq_ok_iff.mp h
    obtain ⟨rest, hrest, h⟩ := bind_eq_ok_iff.mp h
    cases h
    rw [List.map_cons, hg a b hb, ih hrest]

theorem mapM_eq_ok_map {f : α → Except ε β} {g : α → β} {as : List α}
    (h : ∀ a ∈ as, f a = .ok (g a)) : as.mapM f = .ok (as.map g) := by
  induction as with
  | nil => rfl
  | cons a as ih =>
    rw [List.mapM_cons, h a List.mem_cons_self, ih fun b hb => h b (List.mem_cons_of_mem a hb)]
    rfl

/-! ## The first error -/

/-- The error of the first element for which the computation `f` fails. -/
def firstError? (f : α → Except ε β) (as : List α) : Option ε :=
  as.findSome? fun a =>
    match f a with
    | .ok _ => none
    | .error e => some e

theorem firstError?_cons_of_ok {f : α → Except ε β} {a : α} {b : β} (h : f a = .ok b)
    (as : List α) : firstError? f (a :: as) = firstError? f as := by
  rw [firstError?, List.findSome?_cons, h]
  rfl

theorem firstError?_cons_of_error {f : α → Except ε β} {a : α} {e : ε} (h : f a = .error e)
    (as : List α) : firstError? f (a :: as) = some e := by
  rw [firstError?, List.findSome?_cons, h]

theorem firstError?_eq_none_iff {f : α → Except ε β} {as : List α} :
    firstError? f as = none ↔ ∀ a ∈ as, ∃ b, f a = .ok b := by
  rw [firstError?, List.findSome?_eq_none_iff]
  refine forall₂_congr fun a _ => ?_
  cases f a with
  | error e => exact ⟨nofun, nofun⟩
  | ok b => exact ⟨fun _ => ⟨b, rfl⟩, fun _ => rfl⟩

/-! ## Conditions of success -/

/-- The computation `x` gives a result under the condition `p` and fails with the errors that are a
`fault`. One of the two is the case. -/
structure SettledBy (p : Prop) (fault : ε → Prop) (x : Except ε α) : Prop where
  ok : p → ∃ a, x = .ok a
  error : ∀ e, fault e → x = .error e
  complete : p ∨ ∃ e, fault e

/-- The computation `x` gives a result under the condition `p` and else fails with `e`. -/
def SucceedsIf (p : Prop) (e : ε) (x : Except ε α) : Prop :=
  SettledBy p (fun e' => ¬p ∧ e' = e) x

/-- The first element of `as` that is not good has the fault `e`. -/
def FirstFault (good : α → Prop) (fault : α → ε → Prop) (as : List α) (e : ε) : Prop :=
  ∃ before a after, as = before ++ a :: after ∧ (∀ b ∈ before, good b) ∧ fault a e

namespace SettledBy

variable {p q : Prop} {fault fault' : ε → Prop} {x : Except ε α}

/-- A computation that is settled gives a result just under its condition. -/
theorem exists_ok_iff (h : SettledBy p fault x) : (∃ a, x = .ok a) ↔ p := by
  refine ⟨fun ⟨a, ha⟩ => ?_, h.ok⟩
  rcases h.complete with hp | ⟨e, he⟩
  · exact hp
  · rw [h.error e he] at ha
    cases ha

/-- A computation that is settled fails with just the errors that are faults. -/
theorem eq_error_iff (h : SettledBy p fault x) (e : ε) : x = .error e ↔ fault e := by
  refine ⟨fun hx => ?_, h.error e⟩
  rcases h.complete with hp | ⟨e', he'⟩
  · obtain ⟨a, ha⟩ := h.ok hp
    rw [ha] at hx
    cases hx
  · rw [h.error e' he'] at hx
    cases hx
    exact he'

/-- A `check` is settled by itself. -/
theorem self (check : Except ε Unit) :
    SettledBy (check = .ok ()) (fun e => check = .error e) check where
  ok h := ⟨(), h⟩
  error _ h := h
  complete := by
    cases check with
    | ok u => exact Or.inl rfl
    | error e => exact Or.inr ⟨e, rfl⟩

theorem congr (h : SettledBy p fault x) (hp : p ↔ q) (hfault : ∀ e, fault e ↔ fault' e) :
    SettledBy q fault' x where
  ok hq := h.ok (hp.mpr hq)
  error e he := h.error e ((hfault e).mpr he)
  complete := h.complete.imp hp.mp fun ⟨e, he⟩ => ⟨e, (hfault e).mp he⟩

theorem map (h : SettledBy p fault x) (f : α → β) : SettledBy p fault (x.map f) where
  ok hp := by
    obtain ⟨a, rfl⟩ := h.ok hp
    exact ⟨f a, rfl⟩
  error e he := by
    rw [h.error e he]
    rfl
  complete := h.complete

/-- The second computation is made if the first one succeeds, so its faults count under the
condition `p`. -/
theorem bind {f : α → Except ε β} (h : SettledBy p fault x) (hf : ∀ a, SettledBy q fault' (f a)) :
    SettledBy (p ∧ q) (fun e => fault e ∨ p ∧ fault' e) (x >>= f) where
  ok := by
    rintro ⟨hp, hq⟩
    obtain ⟨a, rfl⟩ := h.ok hp
    exact (hf a).ok hq
  error := by
    rintro e (he | ⟨hp, he⟩)
    · rw [h.error e he]
      rfl
    · obtain ⟨a, rfl⟩ := h.ok hp
      exact (hf a).error e he
  complete := by
    rcases h.complete with hp | ⟨e, he⟩
    · obtain ⟨a, -⟩ := h.ok hp
      rcases (hf a).complete with hq | ⟨e, he⟩
      · exact Or.inl ⟨hp, hq⟩
      · exact Or.inr ⟨e, Or.inr ⟨hp, he⟩⟩
    · exact Or.inr ⟨e, Or.inl he⟩

end SettledBy

namespace SucceedsIf

variable {p q : Prop} {e : ε} {x : Except ε α}

theorem of_ok {a : α} (hp : p) (hx : x = .ok a) : SucceedsIf p e x where
  ok _ := ⟨a, hx⟩
  error _ h := absurd hp h.1
  complete := Or.inl hp

theorem of_error (hp : ¬p) (hx : x = .error e) : SucceedsIf p e x where
  ok h := absurd h hp
  error e' h := by rw [hx, h.2]
  complete := Or.inr ⟨e, hp, rfl⟩

theorem congr (h : SucceedsIf p e x) (hpq : p ↔ q) : SucceedsIf q e x :=
  SettledBy.congr h hpq fun _ => by rw [hpq]

theorem map (h : SucceedsIf p e x) (f : α → β) : SucceedsIf p e (x.map f) :=
  SettledBy.map h f

theorem bind_of_ok {f : α → Except ε β} (h : SucceedsIf p e x) (hf : ∀ a, ∃ b, f a = .ok b) :
    SucceedsIf p e (x >>= f) := by
  by_cases hp : p
  · obtain ⟨a, rfl⟩ := h.ok hp
    obtain ⟨b, hb⟩ := hf a
    exact of_ok hp hb
  · rw [h.error e ⟨hp, rfl⟩]
    exact of_error hp rfl

/-- Computations that can fail with `e` only succeed in a row if each of them does. -/
theorem mapM {good : α → Prop} {f : α → Except ε β} {as : List α}
    (h : ∀ a ∈ as, SucceedsIf (good a) e (f a)) :
    SucceedsIf (∀ a ∈ as, good a) e (as.mapM f) := by
  induction as with
  | nil => exact of_ok nofun rfl
  | cons a as ih =>
    rw [List.forall_mem_cons] at h
    rw [List.mapM_cons]
    by_cases ha : good a
    · obtain ⟨b, hb⟩ := h.1.ok ha
      rw [hb]
      have hall : (∀ c ∈ as, good c) ↔ ∀ c ∈ a :: as, good c := by
        rw [List.forall_mem_cons, and_iff_right ha]
      exact ((ih h.2).bind_of_ok fun bs => ⟨b :: bs, rfl⟩).congr hall
    · rw [h.1.error e ⟨ha, rfl⟩]
      exact of_error (fun hall => ha (hall a List.mem_cons_self)) rfl

end SucceedsIf

section FirstFault

variable {good : α → Prop} {fault : α → ε → Prop} {as bs : List α} {e : ε}

theorem firstFault_singleton {a : α} : FirstFault good fault [a] e ↔ fault a e := by
  constructor
  · rintro ⟨before, b, after, heq, -, hb⟩
    obtain ⟨rfl, h⟩ | ⟨before', rfl, h⟩ := List.cons_eq_append_iff.mp heq
    · cases h
      exact hb
    · simp at h
  · intro ha
    exact ⟨[], a, [], rfl, nofun, ha⟩

/-- The first fault is in `as`, or all of `as` is good and it is in `bs`. -/
theorem firstFault_append :
    FirstFault good fault (as ++ bs) e ↔
      FirstFault good fault as e ∨ (∀ a ∈ as, good a) ∧ FirstFault good fault bs e := by
  constructor
  · rintro ⟨before, c, after, heq, hbefore, hc⟩
    rcases List.append_eq_append_iff.mp heq with ⟨rest, rfl, hbs⟩ | ⟨rest, has, hrest⟩
    · rw [List.forall_mem_append] at hbefore
      exact Or.inr ⟨hbefore.1, rest, c, after, hbs, hbefore.2, hc⟩
    · cases rest with
      | nil =>
        rw [List.append_nil] at has
        rw [has]
        exact Or.inr ⟨hbefore, [], c, after, hrest.symm, nofun, hc⟩
      | cons d rest =>
        cases hrest
        exact Or.inl ⟨before, c, rest, has, hbefore, hc⟩
  · rintro (⟨before, c, after, rfl, hbefore, hc⟩ | ⟨has, before, c, after, rfl, hbefore, hc⟩)
    · exact ⟨before, c, after ++ bs, by simp, hbefore, hc⟩
    · exact ⟨as ++ before, c, after, by simp, List.forall_mem_append.mpr ⟨has, hbefore⟩, hc⟩

/-- The computation `f` gives a result for all elements, or there is a first one for which it fails.
-/
theorem decided_or_firstFault (f : α → Except ε β) (as : List α) :
    (∀ a ∈ as, ∃ b, f a = .ok b) ∨
      ∃ e, FirstFault (fun a => ∃ b, f a = .ok b) (fun a e => f a = .error e) as e := by
  induction as with
  | nil => exact Or.inl nofun
  | cons a as ih =>
    cases ha : f a with
    | error e => exact Or.inr ⟨e, [], a, as, rfl, nofun, ha⟩
    | ok b =>
      refine ih.imp (fun hall => ?_) ?_
      · exact List.forall_mem_cons.mpr ⟨⟨b, ha⟩, hall⟩
      · rintro ⟨e, before, c, after, rfl, hbefore, hc⟩
        exact ⟨e, a :: before, c, after, rfl, List.forall_mem_cons.mpr ⟨⟨b, ha⟩, hbefore⟩, hc⟩

/-- The computation `x` gives a result if all of `as` is good, and otherwise has the first fault. -/
def SettledByAll (good : α → Prop) (fault : α → ε → Prop) (as : List α) (x : Except ε β) : Prop :=
  SettledBy (∀ a ∈ as, good a) (FirstFault good fault as) x

theorem settledByAll_nil (b : β) : SettledByAll good fault [] (.ok b) where
  ok _ := ⟨b, rfl⟩
  error := by
    rintro e ⟨before, a, after, h, -⟩
    simp at h
  complete := Or.inl nofun

theorem SettledBy.singleton {a : α} {x : Except ε β} (h : SettledBy (good a) (fault a) x) :
    SettledByAll good fault [a] x :=
  h.congr List.forall_mem_singleton.symm fun _ => firstFault_singleton.symm

/-- Two computations in a row are settled by the elements of the first and then those of the second.
-/
theorem SettledByAll.append {γ δ : Type} {x : Except ε β} {y : Except ε γ}
    (hx : SettledByAll good fault as x) (hy : SettledByAll good fault bs y) (join : β → γ → δ) :
    SettledByAll good fault (as ++ bs) (do let b ← x; let c ← y; .ok (join b c)) := by
  simp only [bind_ok_eq_map]
  exact (hx.bind fun b => hy.map (join b)).congr List.forall_mem_append.symm
    fun _ => firstFault_append.symm

theorem SettledByAll.check_append {x y : Except ε Unit} (hx : SettledByAll good fault as x)
    (hy : SettledByAll good fault bs y) :
    SettledByAll good fault (as ++ bs)
      (match x with
      | .ok () => y
      | .error e => .error e) := by
  have hboth := hx.append hy fun _ _ => ()
  cases x with
  | error e => exact hboth
  | ok u => cases y <;> exact hboth

end FirstFault

/-! ## Tests in a row -/

section

variable (p : β → Except ε Bool)

theorem allM_map (f : α → β) (as : List α) : (as.map f).allM p = as.allM fun a => p (f a) := by
  induction as with
  | nil => rfl
  | cons a as ih =>
    rw [List.map_cons, List.allM, List.allM, ih]

/-- What holds of all elements of `xs ++ ys` is asked of `xs` first. -/
theorem allM_append (xs ys : List β) :
    (xs ++ ys).allM p =
      match xs.allM p with
      | .ok true => ys.allM p
      | outcome => outcome := by
  induction xs with
  | nil => rfl
  | cons x xs ih =>
    rw [List.cons_append, List.allM, List.allM]
    rcases p x with e | _ | _
    case error => rfl
    case ok.false => rfl
    case ok.true => exact ih

/-- All elements of `xs` hold, or the outcome is that of the first one that does not. -/
theorem allM_cases (xs : List β) :
    (xs.allM p = .ok true ∧ ∀ x ∈ xs, p x = .ok true) ∨
      ∃ before x after, xs = before ++ x :: after ∧ (∀ y ∈ before, p y = .ok true) ∧
        p x ≠ .ok true ∧ xs.allM p = p x := by
  induction xs with
  | nil => exact Or.inl ⟨rfl, nofun⟩
  | cons x xs ih =>
    by_cases hx : p x = .ok true
    · have hcons : (x :: xs).allM p = xs.allM p := by
        rw [List.allM, hx]
        rfl
      rcases ih with ⟨hall, hmem⟩ | ⟨before, y, after, rfl, hbefore, hy, hfirst⟩
      · exact Or.inl ⟨hcons.trans hall, List.forall_mem_cons.mpr ⟨hx, hmem⟩⟩
      · exact Or.inr ⟨x :: before, y, after, rfl, List.forall_mem_cons.mpr ⟨hx, hbefore⟩, hy,
          hcons.trans hfirst⟩
    · refine Or.inr ⟨[], x, xs, rfl, nofun, hx, ?_⟩
      rw [List.allM]
      rcases h : p x with e | _ | _
      case error => rfl
      case ok.false => rfl
      case ok.true => exact absurd h hx

end

/-! ## Computations on a state -/

section

variable {S : Type} {x : ExceptT ε (StateM S) α} {s s' : S}

/-- A computation that succeeds hands its result and its state on. -/
theorem run_bind_of_ok {a : α} (h : x.run.run s = (.ok a, s'))
    (k : α → ExceptT ε (StateM S) β) : (x >>= k).run.run s = (k a).run.run s' := by
  rw [ExceptT.run_bind, StateT.run_bind, h]
  rfl

theorem run_bind_of_error {e : ε} (h : x.run.run s = (.error e, s'))
    (k : α → ExceptT ε (StateM S) β) : (x >>= k).run.run s = (.error e, s') := by
  rw [ExceptT.run_bind, StateT.run_bind, h]
  rfl

end

/-! ## Two runs -/

/-- Both computations give results that are related by `R`, or both fail with one error. -/
inductive SameOutcome {ε α β : Type} (R : α → β → Prop) : Except ε α → Except ε β → Prop
  | ok {a : α} {b : β} (related : R a b) : SameOutcome R (.ok a) (.ok b)
  | error (e : ε) : SameOutcome R (.error e) (.error e)

namespace SameOutcome

variable {α' β' : Type} {R : α → β → Prop} {S : α' → β' → Prop} {x : Except ε α} {y : Except ε β}

theorem bind {f : α → Except ε α'} {g : β → Except ε β'} (h : SameOutcome R x y)
    (hfg : ∀ a b, R a b → SameOutcome S (f a) (g b)) : SameOutcome S (x >>= f) (y >>= g) := by
  cases h with
  | ok related => exact hfg _ _ related
  | error e => exact .error e

theorem map {f : α → α'} {g : β → β'} (h : SameOutcome R x y)
    (hfg : ∀ a b, R a b → S (f a) (g b)) : SameOutcome S (x.map f) (y.map g) := by
  cases h with
  | ok related => exact .ok (hfg _ _ related)
  | error e => exact .error e

/-- Related results that `f` and `g` show alike are the same outcome to whoever sees no more. -/
theorem map_eq {γ : Type} {f : α → γ} {g : β → γ} (h : SameOutcome R x y)
    (hfg : ∀ a b, R a b → f a = g b) : x.map f = y.map g := by
  cases h with
  | ok related => exact congrArg Except.ok (hfg _ _ related)
  | error e => rfl

end SameOutcome

/-- The computation `y` gives whatever `x` gives; their errors may differ. -/
def Yields {ε ε' α : Type} (x : Except ε α) (y : Except ε' α) : Prop :=
  ∀ a, x = .ok a → y = .ok a

namespace Yields

variable {ε' : Type}

theorem refl (x : Except ε α) : Yields x x := by
  intro a h
  exact h

theorem bind {x : Except ε α} {y : Except ε' α} {f : α → Except ε β} {g : α → Except ε' β}
    (h : Yields x y) (hfg : ∀ a, Yields (f a) (g a)) : Yields (x >>= f) (y >>= g) := by
  intro b hb
  obtain ⟨a, ha, hfa⟩ := bind_eq_ok_iff.mp hb
  exact bind_eq_ok_iff.mpr ⟨a, h a ha, hfg a b hfa⟩

theorem map {x : Except ε α} {y : Except ε' α} (h : Yields x y) (f : α → β) :
    Yields (x.map f) (y.map f) := by
  intro b hb
  obtain ⟨a, ha, hfa⟩ := map_eq_ok_iff.mp hb
  exact map_eq_ok_iff.mpr ⟨a, h a ha, hfa⟩

theorem mapM {f : α → Except ε β} {g : α → Except ε' β} (h : ∀ a, Yields (f a) (g a))
    (as : List α) : Yields (as.mapM f) (as.mapM g) := by
  induction as with
  | nil =>
    intro bs hbs
    cases hbs
    rfl
  | cons a as ih =>
    rw [List.mapM_cons, List.mapM_cons]
    refine (h a).bind fun b => ih.bind fun rest => ?_
    intro bs hbs
    cases hbs
    rfl

end Yields

end Quarry
