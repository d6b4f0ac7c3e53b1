import Quarry.Proofs.Specification

/-!
# What an evaluation reads

A formula is tested from left to right, and no further than is needed to know its value. What that
comes to is said here for each place of a leaf by itself, since one leaf may stand at many places
(`Formula.placed`).

The leaves that are tested are some of all leaves in their order. Only the last one can fail. If
none fails, they settle the value of the formula, whatever the others say, and what stands at the
places that were not reached does not matter. And none of the tests is idle: without fixed values in
the formula, the tests before it leave both values open (`Specification.evaluation_readsNoMore`).
-/

namespace Quarry

namespace Formula

variable {ι κ ε : Type}

/-! ## Connectives -/

/-- The connective in which a left part with the value `d` decides: `and` for `false`, `or` for
`true`. -/
def join : Bool → Formula ι → Formula ι → Formula ι
  | false, a, b => a.and b
  | true, a, b => a.or b

/-- Induction with one case `join` for both connectives, as far as it does not matter which one it
is. -/
@[elab_as_elim]
theorem join_induction {motive : Formula ι → Prop} (const : ∀ b, motive (.const b))
    (leaf : ∀ l, motive (.leaf l)) (join : ∀ d a b, motive a → motive b → motive (join d a b))
    (not : ∀ a, motive a → motive a.not) (f : Formula ι) : motive f := by
  induction f with
  | const b => exact const b
  | leaf l => exact leaf l
  | and a b iha ihb => exact join false a b iha ihb
  | or a b iha ihb => exact join true a b iha ihb
  | not a ih => exact not a ih

theorem leaves_join (d : Bool) (a b : Formula ι) : (join d a b).leaves = a.leaves ++ b.leaves := by
  cases d <;> rfl

theorem map_join (g : ι → κ) (d : Bool) (a b : Formula ι) :
    (join d a b).map g = join d (a.map g) (b.map g) := by
  cases d <;> rfl

/-! ## Values and places -/

/-- The value of a formula whose leaves have the values `v`. -/
def value (v : ι → Bool) : Formula ι → Bool
  | const b => b
  | leaf l => v l
  | and a b => value v a && value v b
  | or a b => value v a || value v b
  | not a => !value v a

/-- The formula with the place of each leaf. Places are counted from the left, and the first one is
`n`. -/
def placedFrom (n : Nat) : Formula ι → Formula (ι × Nat)
  | const b => const b
  | leaf l => leaf (l, n)
  | and a b => and (placedFrom n a) (placedFrom (n + a.leaves.length) b)
  | or a b => or (placedFrom n a) (placedFrom (n + a.leaves.length) b)
  | not a => not (placedFrom n a)

/-- The formula with the place of each leaf, counted from zero. -/
def placed (f : Formula ι) : Formula (ι × Nat) :=
  f.placedFrom 0

/-- The formula `f` with the leaf `l` at the place `n`. -/
def replaceAt (n : Nat) (l : ι) (f : Formula ι) : Formula ι :=
  f.placed.map fun p => if p.2 = n then l else p.1

/-- No part of the formula has a fixed value, that is, none is a `const`. -/
def IsOpen : Formula ι → Prop
  | const _ => False
  | leaf _ => True
  | and a b => IsOpen a ∧ IsOpen b
  | or a b => IsOpen a ∧ IsOpen b
  | not a => IsOpen a

section Join

variable {d : Bool} {a b : Formula ι} {v : ι → Bool}

/-- A left part with the deciding value `d` decides. -/
theorem value_join_of_decided (h : a.value v = d) : (join d a b).value v = d := by
  cases d <;> simp [join, value, h]

/-- With a left part that does not decide, the value is that of the right part. -/
theorem value_join_of_left (h : a.value v = !d) : (join d a b).value v = b.value v := by
  cases d <;> simp [join, value, h]

theorem value_join_of_right (h : b.value v = !d) : (join d a b).value v = a.value v := by
  cases d <;> simp [join, value, h]

theorem placedFrom_join (n : Nat) :
    (join d a b).placedFrom n =
      join d (a.placedFrom n) (b.placedFrom (n + a.leaves.length)) := by
  cases d <;> rfl

theorem isOpen_join : (join d a b).IsOpen ↔ a.IsOpen ∧ b.IsOpen := by
  cases d <;> rfl

end Join

/-- The leaves of `f.placedFrom n` are those of `f`, numbered from `n` on. -/
theorem leaves_placedFrom (n : Nat) (f : Formula ι) :
    (f.placedFrom n).leaves = f.leaves.zipIdx n := by
  induction f using join_induction generalizing n with
  | const b => rfl
  | leaf l => rfl
  | join d a b iha ihb => simp only [placedFrom_join, leaves_join, iha, ihb, List.zipIdx_append]
  | not a ih => exact ih n

theorem map_fst_placedFrom (n : Nat) (f : Formula ι) : (f.placedFrom n).map Prod.fst = f := by
  induction f using join_induction generalizing n with
  | const b => rfl
  | leaf l => rfl
  | join d a b iha ihb => rw [placedFrom_join, map_join, iha, ihb]
  | not a ih => simp only [placedFrom, map, ih]

theorem length_leaves_map (g : ι → κ) (f : Formula ι) :
    (f.map g).leaves.length = f.leaves.length := by
  induction f using join_induction with
  | const b => rfl
  | leaf l => rfl
  | join d a b iha ihb => simp only [map_join, leaves_join, List.length_append, iha, ihb]
  | not a ih => exact ih

/-- Leaves that are replaced where they stand keep their places. -/
theorem placedFrom_map_placedFrom (n : Nat) (g : ι × Nat → κ) (f : Formula ι) :
    ((f.placedFrom n).map g).placedFrom n = (f.placedFrom n).map fun p => (g p, p.2) := by
  induction f using join_induction generalizing n with
  | const b => rfl
  | leaf l => rfl
  | join d a b iha ihb =>
    simp only [placedFrom_join, map_join, iha, ihb, length_leaves_map, leaves_placedFrom,
      List.length_zipIdx]
  | not a ih => simp only [placedFrom, map, ih]

theorem nodup_places (f : Formula ι) : (f.leaves.zipIdx.map Prod.snd).Nodup := by
  rw [List.zipIdx_map_snd]
  exact List.nodup_range'

theorem nodup_leaves_placed (f : Formula ι) : f.placed.leaves.Nodup := by
  rw [placed, leaves_placedFrom]
  refine List.Pairwise.of_map Prod.snd ?_ f.nodup_places
  intro p q hne heq
  exact hne (congrArg Prod.snd heq)

theorem isOpen_placedFrom {f : Formula ι} (h : f.IsOpen) (n : Nat) : (f.placedFrom n).IsOpen := by
  induction f using join_induction generalizing n with
  | const b => exact h
  | leaf l => trivial
  | join d a b iha ihb =>
    rw [isOpen_join] at h
    rw [placedFrom_join, isOpen_join]
    exact ⟨iha h.1 n, ihb h.2 _⟩
  | not a ih => exact ih h n

/-! ## One run -/

/-- Evaluation in a monad `m`, where a `test` may do more than tell a value. -/
def evalM {m : Type → Type} [Monad m] (test : ι → m Bool) : Formula ι → m Bool
  | const b => pure b
  | leaf l => test l
  | and a b => do if ← evalM test a then evalM test b else pure false
  | or a b => do if ← evalM test a then pure true else evalM test b
  | not a => do pure !(← evalM test a)

/-- A `test` that enters its leaf into a log. -/
def logged (test : ι → Except ε Bool) (l : ι) : ExceptT ε (StateM (List ι)) Bool := do
  modify (· ++ [l])
  ExceptT.mk (pure (test l))

/-- In both connectives, the left part is run first, and the right part is if the left one does not
decide. -/
theorem evalM_join {m : Type → Type} [Monad m] (test : ι → m Bool) (d : Bool) (a b : Formula ι) :
    (join d a b).evalM test =
      (do if (← a.evalM test) = d then pure d else b.evalM test) := by
  cases d with
  | false =>
    rw [join, evalM]
    congr 1
    funext c
    cases c <;> rfl
  | true => rfl

/-- The right part of a connective is tested if the left part has the value `!d`, which does not
decide. -/
theorem join_cases (test : ι → Except ε Bool) (d : Bool) (a b : Formula ι) :
    (a.eval test = .ok !d ∧ (join d a b).eval test = b.eval test ∧
      (join d a b).visited test = a.visited test ++ b.visited test) ∨
    (a.eval test ≠ .ok !d ∧ (join d a b).eval test = a.eval test ∧
      (join d a b).visited test = a.visited test) := by
  cases d
  all_goals
    rw [join, eval, visited]
    rcases a.eval test with e | _ | _ <;> simp

/-- One run gives the value and, in the `log`, the leaves that were tested. -/
theorem run_evalM_logged (test : ι → Except ε Bool) (f : Formula ι) (log : List ι) :
    (f.evalM (logged test)).run.run log = (f.eval test, log ++ f.visited test) := by
  induction f using join_induction generalizing log with
  | const b => exact Prod.ext rfl (List.append_nil log).symm
  | leaf l => rfl
  | join d a b iha ihb =>
    have ha := iha log
    rw [evalM_join]
    rcases join_cases test d a b with ⟨hleft, heval, hvisited⟩ | ⟨hne, heval, hvisited⟩
    · rw [hleft] at ha
      rw [run_bind_of_ok ha, if_neg (by simp), heval, hvisited, ← List.append_assoc]
      exact ihb _
    · rw [heval, hvisited]
      cases h : a.eval test with
      | error e =>
        rw [h] at ha
        rw [run_bind_of_error ha]
      | ok c =>
        rw [h] at ha hne
        have hc : c = d := by simpa using hne
        rw [run_bind_of_ok ha, if_pos hc, hc]
        rfl
  | not a ih =>
    have ha := ih log
    cases h : a.eval test with
    | error e =>
      rw [h] at ha
      rw [evalM, run_bind_of_error ha, eval, visited, h]
      rfl
    | ok c =>
      rw [h] at ha
      rw [evalM, run_bind_of_ok ha, eval, visited, h]
      rfl

/-! ## Tested leaves -/

theorem not_eval_eq_ok_iff {test : ι → Except ε Bool} {a : Formula ι} {b : Bool} :
    a.not.eval test = .ok b ↔ a.eval test = .ok !b := by
  rw [eval]
  rcases a.eval test with e | c
  · simp [Except.map]
  · cases b <;> cases c <;> simp [Except.map]

variable {test : ι → Except ε Bool} {f a b : Formula ι}

theorem visited_sublist (test : ι → Except ε Bool) (f : Formula ι) :
    (f.visited test).Sublist f.leaves := by
  induction f using join_induction with
  | const b => exact .slnil
  | leaf l => exact List.Sublist.refl _
  | join d a b iha ihb =>
    rw [leaves_join]
    rcases join_cases test d a b with ⟨-, -, hvisited⟩ | ⟨-, -, hvisited⟩
    · rw [hvisited]
      exact iha.append ihb
    · rw [hvisited]
      exact iha.trans (List.sublist_append_left _ _)
  | not a ih => exact ih

theorem exists_ok_of_eval {c : Bool} (h : f.eval test = .ok c) :
    ∀ l ∈ f.visited test, ∃ b, test l = .ok b := by
  induction f using join_induction generalizing c with
  | const b => exact nofun
  | leaf l =>
    intro l' hl'
    rw [List.mem_singleton.mp hl']
    exact ⟨c, h⟩
  | join d a b iha ihb =>
    intro l hl
    rcases join_cases test d a b with ⟨ha, heval, hvisited⟩ | ⟨-, heval, hvisited⟩
    · rw [hvisited] at hl
      rw [heval] at h
      exact (List.mem_append.mp hl).elim (iha ha l) (ihb h l)
    · rw [hvisited] at hl
      exact iha (heval.symm.trans h) l hl
  | not a ih => exact ih (not_eval_eq_ok_iff.mp h)

/-- A failure is that of the last test, before which no test failed. -/
theorem exists_last_of_eval {e : ε} (h : f.eval test = .error e) :
    ∃ before last, f.visited test = before ++ [last] ∧ test last = .error e ∧
      ∀ l ∈ before, ∃ b, test l = .ok b := by
  induction f using join_induction with
  | const b => cases h
  | leaf l => exact ⟨[], l, rfl, h, nofun⟩
  | join d a b iha ihb =>
    rcases join_cases test d a b with ⟨ha, heval, hvisited⟩ | ⟨-, heval, hvisited⟩
    · obtain ⟨before, last, hb, hlast, hbefore⟩ := ihb (heval.symm.trans h)
      refine ⟨a.visited test ++ before, last, ?_, hlast, ?_⟩
      · rw [hvisited, hb, List.append_assoc]
      · intro l hl
        exact (List.mem_append.mp hl).elim (exists_ok_of_eval ha l) (hbefore l)
    · rw [hvisited]
      exact iha (heval.symm.trans h)
  | not a ih =>
    refine ih ?_
    rw [eval] at h
    cases ha : a.eval test with
    | error e' =>
      rw [ha] at h
      cases h
      rfl
    | ok c =>
      rw [ha] at h
      cases h

/-- The tests that were made settle the value: any values `v` that agree with them give it. -/
theorem value_of_eval {v : ι → Bool} {c : Bool} (h : f.eval test = .ok c)
    (hv : ∀ l ∈ f.visited test, test l = .ok (v l)) : f.value v = c := by
  induction f using join_induction generalizing c with
  | const b => exact Except.ok.inj h
  | leaf l =>
    have hl := hv l (List.mem_singleton.mpr rfl)
    exact Except.ok.inj (hl.symm.trans h)
  | join d a b iha ihb =>
    rcases join_cases test d a b with ⟨ha, heval, hvisited⟩ | ⟨hne, heval, hvisited⟩
    · rw [hvisited] at hv
      rw [value_join_of_left (iha ha fun l hl => hv l (List.mem_append_left _ hl))]
      exact ihb (heval.symm.trans h) fun l hl => hv l (List.mem_append_right _ hl)
    · rw [hvisited] at hv
      have ha := heval.symm.trans h
      rw [ha] at hne
      have hc : c = d := by simpa using hne
      rw [value_join_of_decided ((iha ha hv).trans hc), hc]
  | not a ih => rw [value, ih (not_eval_eq_ok_iff.mp h) hv, Bool.not_not]

/-- What is not tested does not matter: `g` may replace the other leaves. -/
theorem eval_map_of_visited {g : ι → κ} {test' : κ → Except ε Bool}
    (h : ∀ l ∈ f.visited test, test' (g l) = test l) :
    (f.map g).eval test' = f.eval test ∧
      (f.map g).visited test' = (f.visited test).map g := by
  induction f using join_induction with
  | const b => exact ⟨rfl, rfl⟩
  | leaf l => exact ⟨h l (List.mem_singleton.mpr rfl), rfl⟩
  | join d a b iha ihb =>
    rw [map_join]
    rcases join_cases test d a b with ⟨hleft, heval, hvisited⟩ | ⟨hleft, heval, hvisited⟩
    · rw [hvisited] at h
      obtain ⟨ha, hva⟩ := iha fun l hl => h l (List.mem_append_left _ hl)
      obtain ⟨hb, hvb⟩ := ihb fun l hl => h l (List.mem_append_right _ hl)
      rcases join_cases test' d (a.map g) (b.map g) with ⟨-, heval', hvisited'⟩ | ⟨hleft', -, -⟩
      · rw [heval', hvisited', heval, hvisited, hb, hva, hvb, List.map_append]
        exact ⟨rfl, rfl⟩
      · exact absurd (ha.trans hleft) hleft'
    · rw [hvisited] at h
      obtain ⟨ha, hva⟩ := iha h
      rcases join_cases test' d (a.map g) (b.map g) with ⟨hleft', -, -⟩ | ⟨-, heval', hvisited'⟩
      · exact absurd (ha.symm.trans hleft') hleft
      · exact ⟨by rw [heval', ha, heval], by rw [hvisited', hva, hvisited]⟩
  | not a ih =>
    obtain ⟨ha, hva⟩ := ih h
    exact ⟨by rw [map, eval, eval, ha], hva⟩

/-! ## No idle tests -/

/-- With what the tests of the leaves in `known` have told, the formula `f` can have the value `c`.
-/
def Admits (test : ι → Except ε Bool) (known : List ι) (f : Formula ι) (c : Bool) : Prop :=
  ∃ v : ι → Bool, (∀ l ∈ known, test l = .ok (v l)) ∧ f.value v = c

theorem value_congr {v w : ι → Bool} (h : ∀ l ∈ f.leaves, v l = w l) : f.value v = f.value w := by
  induction f with
  | const b => rfl
  | leaf l => exact h l (List.mem_singleton.mpr rfl)
  | and a b iha ihb | or a b iha ihb =>
    rw [value, value, iha fun l hl => h l (List.mem_append_left _ hl),
      ihb fun l hl => h l (List.mem_append_right _ hl)]
  | not a ih => rw [value, value, ih h]

/-- Formulas `a` and `b` without a leaf in common have their values independently. -/
theorem Admits.both {c d : Bool} {known known' : List ι} (ha : a.Admits test known c)
    (hb : b.Admits test known' d) (hnodup : (a.leaves ++ b.leaves).Nodup)
    (hknown : ∀ l ∈ known, l ∈ a.leaves) (hknown' : ∀ l ∈ known', l ∈ b.leaves) :
    ∃ v : ι → Bool,
      (∀ l ∈ known ++ known', test l = .ok (v l)) ∧ a.value v = c ∧ b.value v = d := by
  classical
  obtain ⟨va, htold, hva⟩ := ha
  obtain ⟨vb, htold', hvb⟩ := hb
  have hdisjoint := (List.nodup_append.mp hnodup).2.2
  let v : ι → Bool := fun l => if l ∈ a.leaves then va l else vb l
  have hleft : ∀ l ∈ a.leaves, v l = va l := by
    intro l hl
    simp [v, hl]
  have hright : ∀ l ∈ b.leaves, v l = vb l := by
    intro l hl
    have hnot : l ∉ a.leaves := fun hla => hdisjoint l hla l hl rfl
    simp [v, hnot]
  refine ⟨v, ?_, ?_, ?_⟩
  · intro l hl
    rcases List.mem_append.mp hl with hl | hl
    · rw [hleft l (hknown l hl), htold l hl]
    · rw [hright l (hknown' l hl), htold' l hl]
  · rw [value_congr hleft, hva]
  · rw [value_congr hright, hvb]

/-- Nothing is told yet about a formula `f` without fixed values, so it admits both. -/
theorem admits_of_isOpen (test : ι → Except ε Bool) (hopen : f.IsOpen) (hnodup : f.leaves.Nodup)
    (c : Bool) : f.Admits test [] c := by
  induction f using join_induction generalizing c with
  | const b => exact hopen.elim
  | leaf l => exact ⟨fun _ => c, nofun, rfl⟩
  | join d a b iha ihb =>
    rw [isOpen_join] at hopen
    rw [leaves_join] at hnodup
    obtain ⟨hnodupa, hnodupb, -⟩ := List.nodup_append.mp hnodup
    have ha := iha hopen.1 hnodupa c
    have hb := ihb hopen.2 hnodupb !d
    obtain ⟨v, htold, hva, hvb⟩ := ha.both hb hnodup nofun nofun
    exact ⟨v, htold, (value_join_of_right hvb).trans hva⟩
  | not a ih =>
    obtain ⟨v, htold, hv⟩ := ih hopen hnodup !c
    exact ⟨v, htold, by rw [value, hv, Bool.not_not]⟩

theorem admits_of_eval {c : Bool} (h : f.eval test = .ok c) : f.Admits test (f.visited test) c := by
  have hv : ∀ l ∈ f.visited test, test l = .ok (match test l with
      | .ok b => b
      | .error _ => false) := by
    intro l hl
    obtain ⟨b, hb⟩ := exists_ok_of_eval h l hl
    rw [hb]
  exact ⟨_, hv, value_of_eval h hv⟩

theorem append_eq_append_cons {as bs before after : List ι} {l : ι}
    (h : as ++ bs = before ++ l :: after) :
    (∃ rest, as = before ++ l :: rest) ∨ ∃ rest, before = as ++ rest ∧ bs = rest ++ l :: after := by
  rcases List.append_eq_append_iff.mp h with ⟨rest, hbefore, hbs⟩ | ⟨rest, has, hrest⟩
  · exact Or.inr ⟨rest, hbefore, hbs⟩
  · cases rest with
    | nil => exact Or.inr ⟨[], by rw [has, List.append_nil, List.append_nil], hrest.symm⟩
    | cons k rest =>
      obtain ⟨rfl, -⟩ := List.cons.inj hrest
      exact Or.inl ⟨rest, has⟩

/-- Whenever a leaf `l` is tested, the tests before it have left both values of the formula open. -/
theorem admits_of_visited (hopen : f.IsOpen) (hnodup : f.leaves.Nodup) {before after : List ι}
    {l : ι} (h : f.visited test = before ++ l :: after) (c : Bool) : f.Admits test before c := by
  induction f using join_induction generalizing before after c with
  | const b => exact hopen.elim
  | leaf l' =>
    cases before with
    | nil => exact ⟨fun _ => c, nofun, rfl⟩
    | cons k rest => simp [visited] at h
  | join d a b iha ihb =>
    rw [isOpen_join] at hopen
    rw [leaves_join] at hnodup
    obtain ⟨hnodupa, hnodupb, -⟩ := List.nodup_append.mp hnodup
    have hsuba : ∀ k ∈ a.visited test, k ∈ a.leaves := (visited_sublist test a).subset
    have hsubb : ∀ k ∈ b.visited test, k ∈ b.leaves := (visited_sublist test b).subset
    have hfirst {rest : List ι} (ha : a.visited test = before ++ l :: rest) :
        (join d a b).Admits test before c := by
      have hbefore : ∀ k ∈ before, k ∈ a.leaves := fun k hk =>
        hsuba k (ha ▸ List.mem_append_left _ hk)
      obtain ⟨v, htold, hva, hvb⟩ := (iha hopen.1 hnodupa ha c).both
        (admits_of_isOpen test hopen.2 hnodupb !d) hnodup hbefore nofun
      rw [List.append_nil] at htold
      exact ⟨v, htold, (value_join_of_right hvb).trans hva⟩
    rcases join_cases test d a b with ⟨hleft, -, hvisited⟩ | ⟨-, -, hvisited⟩
    · rcases append_eq_append_cons (hvisited.symm.trans h) with ⟨rest, ha⟩ | ⟨rest, rfl, hb⟩
      · exact hfirst ha
      · have hrest : ∀ k ∈ rest, k ∈ b.leaves := fun k hk =>
          hsubb k (hb ▸ List.mem_append_left _ hk)
        obtain ⟨v, htold, hva, hvb⟩ := (admits_of_eval hleft).both (ihb hopen.2 hnodupb hb c)
          hnodup hsuba hrest
        exact ⟨v, htold, (value_join_of_left hva).trans hvb⟩
    · exact hfirst (hvisited.symm.trans h)
  | not a ih =>
    obtain ⟨v, htold, hv⟩ := ih hopen hnodup h !c
    exact ⟨v, htold, by rw [value, hv, Bool.not_not]⟩

end Formula

/-! ## Specifications -/

namespace Specification

open Formula

variable {α : Type} [Record α]

/-- The leaves that are tested to decide about the entity, with their places, in order. -/
def tested (s : Specification α) (entity : α) : List (SpecificationLeaf α × Nat) :=
  s.placed.visited fun p => p.1.test entity

/-- To decide about the entity the specification `s` is read no further than is needed. -/
structure ReadsNoMore (s : Specification α) (entity : α) : Prop where
  /-- The answer and the leaves that are tested are those of one run. -/
  run : (s.placed.evalM (logged fun p => p.1.test entity)).run.run [] =
    (s.isSatisfiedBy entity, s.tested entity)
  inOrder : (s.tested entity).Sublist s.leaves.zipIdx
  once : ((s.tested entity).map Prod.snd).Nodup
  failed {e : EvaluationError} (h : s.isSatisfiedBy entity = .error e) :
    ∃ before last, s.tested entity = before ++ [last] ∧ last.1.test entity = .error e ∧
      ∀ p ∈ before, ∃ b, p.1.test entity = .ok b
  decided {c : Bool} (h : s.isSatisfiedBy entity = .ok c) :
    (∀ p ∈ s.tested entity, ∃ b, p.1.test entity = .ok b) ∧
      ∀ v : SpecificationLeaf α × Nat → Bool,
        (∀ p ∈ s.tested entity, p.1.test entity = .ok (v p)) → s.placed.value v = c
  replaced {n : Nat} (h : ∀ p ∈ s.tested entity, p.2 ≠ n) (l : SpecificationLeaf α) :
    isSatisfiedBy (s.replaceAt n l) entity = s.isSatisfiedBy entity ∧
      tested (s.replaceAt n l) entity = s.tested entity
  /-- What was known before a test left both answers open. -/
  needed (hopen : s.IsOpen) {before after : List (SpecificationLeaf α × Nat)}
    {p : SpecificationLeaf α × Nat} (h : s.tested entity = before ++ p :: after) (c : Bool) :
    s.placed.Admits (fun p => p.1.test entity) before c

/-- With its places, a specification is tested as it is without them. -/
theorem eval_placed (s : Specification α) (entity : α) :
    s.placed.eval (fun p => p.1.test entity) = s.isSatisfiedBy entity := by
  have heval : (s.placed.map Prod.fst).eval (SpecificationLeaf.test entity) =
      s.placed.eval fun p => p.1.test entity := (eval_map_of_visited fun _ _ => rfl).1
  rw [placed, map_fst_placedFrom] at heval
  exact heval.symm

theorem replaceAt_of_not_tested {s : Specification α} {entity : α} {n : Nat}
    (h : ∀ p ∈ s.tested entity, p.2 ≠ n) (l : SpecificationLeaf α) :
    isSatisfiedBy (s.replaceAt n l) entity = s.isSatisfiedBy entity ∧
      tested (s.replaceAt n l) entity = s.tested entity := by
  let g : SpecificationLeaf α × Nat → SpecificationLeaf α := fun p => if p.2 = n then l else p.1
  have hg : ∀ p ∈ s.tested entity, g p = p.1 := by
    intro p hp
    exact if_neg (h p hp)
  have hplaced : (s.replaceAt n l).placed = s.placed.map fun p => (g p, p.2) :=
    placedFrom_map_placedFrom 0 g s
  constructor
  · rw [← eval_placed s]
    refine (eval_map_of_visited fun p hp => ?_).1
    exact congrArg (SpecificationLeaf.test entity) (hg p hp)
  · have hvisited : (s.placed.map fun p => (g p, p.2)).visited (fun p => p.1.test entity) =
        (s.tested entity).map fun p => (g p, p.2) := by
      refine (eval_map_of_visited fun p hp => ?_).2
      exact congrArg (SpecificationLeaf.test entity) (hg p hp)
    rw [tested, hplaced, hvisited]
    refine (List.map_congr_left fun p hp => ?_).trans (List.map_id _)
    exact Prod.ext (hg p hp) rfl

/-- Whatever the leaves of `s` are and wherever they fail, `s` is read no further than is needed. -/
theorem evaluation_readsNoMore (s : Specification α) (entity : α) : s.ReadsNoMore entity := by
  have hleaves : s.placed.leaves = s.leaves.zipIdx := leaves_placedFrom 0 s
  have hsublist : (s.tested entity).Sublist s.leaves.zipIdx := by
    rw [← hleaves]
    exact visited_sublist _ _
  constructor
  case run => rw [run_evalM_logged, List.nil_append, eval_placed, tested]
  case inOrder => exact hsublist
  case once => exact (hsublist.map Prod.snd).nodup (nodup_places s)
  case failed =>
    intro e h
    rw [← eval_placed] at h
    exact exists_last_of_eval h
  case decided =>
    intro c h
    rw [← eval_placed] at h
    exact ⟨exists_ok_of_eval h, fun v hv => value_of_eval h hv⟩
  case replaced =>
    intro n h l
    exact replaceAt_of_not_tested h l
  case needed =>
    intro hopen before after p h c
    exact admits_of_visited (isOpen_placedFrom hopen 0) (nodup_leaves_placed s) h c

end Specification

end Quarry
