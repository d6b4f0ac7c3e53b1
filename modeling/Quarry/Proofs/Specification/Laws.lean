import Quarry.Proofs.Specification.Evaluation

/-!
# Boolean laws for tests that may fail

"And" and "or" are associative, "not" goes through both of them by De Morgan's laws, and a double
"not" can be left out. These are laws of truth values, but a test may also fail, and then it matters
which leaves are tested and in what order. The two sides of each law have the same leaves at the
same places, and a run of the one side does what a run of the other side does, whatever a test may
do besides telling a truth value (`Formula.RunsAlike`).

Evaluation goes through a formula part by part, so parts that run alike can stand for each other
anywhere in a larger formula (`Formula.RunsAlike.fill`). For specifications this means that neither
the answer, nor the error, nor the sequence of the leaves that are tested depends on which side of a
law is written (`Specification.boolean_laws_hold`).
-/

namespace Quarry

namespace Formula

variable {ι κ ε : Type}

/-! ## The laws -/

section Laws

variable {m : Type → Type} [Monad m] [LawfulMonad m] (test : κ → m Bool) (a b c : Formula κ)

/-- Both connectives can be bracketed in either way, whatever `test` does. -/
theorem evalM_join_assoc (d : Bool) :
    (join d (join d a b) c).evalM test = (join d a (join d b c)).evalM test := by
  simp only [evalM_join, bind_assoc]
  refine bind_congr fun x => ?_
  split
  · simp
  · rfl

/-- A negation goes into both parts and turns the one connective into the other. -/
theorem evalM_not_join (d : Bool) :
    (join d a b).not.evalM test = (join (!d) a.not b.not).evalM test := by
  simp only [evalM_join, evalM, bind_assoc, pure_bind]
  refine bind_congr fun x => ?_
  split
  · next h => simp [h]
  · next h => simp [h]

theorem evalM_not_not : a.not.not.evalM test = a.evalM test := by
  simp [evalM]

end Laws

/-! ## Formulas that run alike -/

/-- The formulas `f` and `g` have the same leaves at the same places, and whatever the test of a
leaf does, a run of `f` does what a run of `g` does. -/
structure RunsAlike (f g : Formula ι) : Prop where
  leaves : f.leaves = g.leaves
  evalM (n : Nat) {m : Type → Type} [Monad m] [LawfulMonad m] (test : ι × Nat → m Bool) :
    (f.placedFrom n).evalM test = (g.placedFrom n).evalM test

namespace RunsAlike

variable {f g a a' b b' : Formula ι}

theorem refl (f : Formula ι) : RunsAlike f f where
  leaves := rfl
  evalM _ _ _ _ _ := rfl

/-- A connective of parts that run alike runs alike. -/
theorem join (d : Bool) (ha : RunsAlike a a') (hb : RunsAlike b b') :
    RunsAlike (join d a b) (join d a' b') where
  leaves := by rw [leaves_join, leaves_join, ha.leaves, hb.leaves]
  evalM n _ _ _ test := by
    rw [placedFrom_join, placedFrom_join, evalM_join, evalM_join, ha.evalM, hb.evalM, ha.leaves]

theorem not (ha : RunsAlike a a') : RunsAlike a.not a'.not where
  leaves := ha.leaves
  evalM n _ _ _ test := by
    rw [placedFrom, placedFrom, Formula.evalM, Formula.evalM, ha.evalM]

/-- The two ways to bracket a connective run alike. -/
theorem join_assoc (d : Bool) (a b c : Formula ι) :
    RunsAlike (.join d (.join d a b) c) (.join d a (.join d b c)) where
  leaves := by simp only [leaves_join, List.append_assoc]
  evalM n _ _ _ test := by
    simp only [placedFrom_join, leaves_join, List.length_append, ← Nat.add_assoc]
    exact evalM_join_assoc ..

/-- By De Morgan's laws, a negated connective runs like the other one of negated parts. -/
theorem not_join (d : Bool) (a b : Formula ι) :
    RunsAlike (Formula.join d a b).not (.join (!d) a.not b.not) where
  leaves := by rw [leaves_join, Formula.leaves, leaves_join, Formula.leaves, Formula.leaves]
  evalM n _ _ _ test := by
    rw [placedFrom, placedFrom_join, placedFrom_join]
    exact evalM_not_join ..

theorem not_not (a : Formula ι) : RunsAlike a.not.not a where
  leaves := rfl
  evalM _ _ _ _ _ := evalM_not_not ..

/-- A run with a log tells the value and the leaves that were tested, so formulas that run alike
agree in both. -/
theorem placed_eq (h : RunsAlike f g) (test : ι × Nat → Except ε Bool) :
    f.placed.eval test = g.placed.eval test ∧ f.placed.visited test = g.placed.visited test := by
  have hrun := congrArg (fun x => x.run.run []) (h.evalM 0 (logged test))
  simp only [run_evalM_logged, List.nil_append] at hrun
  exact Prod.mk.inj hrun

end RunsAlike

/-! ## Formulas within formulas -/

/-- A formula with a `hole` in the place of one part. -/
inductive Context (ι : Type) where
  | hole
  | andLeft (w : Context ι) (b : Formula ι)
  | andRight (a : Formula ι) (w : Context ι)
  | orLeft (w : Context ι) (b : Formula ι)
  | orRight (a : Formula ι) (w : Context ι)
  | not (w : Context ι)

/-- The formula with the part `f` put into the hole. -/
def Context.fill : Context ι → Formula ι → Formula ι
  | hole, f => f
  | andLeft w b, f => .and (w.fill f) b
  | andRight a w, f => .and a (w.fill f)
  | orLeft w b, f => .or (w.fill f) b
  | orRight a w, f => .or a (w.fill f)
  | not w, f => .not (w.fill f)

/-- Parts `f` and `g` that run alike can stand for each other in the context `w`. -/
theorem RunsAlike.fill {f g : Formula ι} (h : RunsAlike f g) (w : Context ι) :
    RunsAlike (w.fill f) (w.fill g) := by
  induction w with
  | hole => exact h
  | andLeft w b ih => exact ih.join false (.refl b)
  | andRight a w ih => exact (RunsAlike.refl a).join false ih
  | orLeft w b ih => exact ih.join true (.refl b)
  | orRight a w ih => exact (RunsAlike.refl a).join true ih
  | not w ih => exact ih.not

end Formula

/-! ## Specifications -/

namespace Specification

open Formula

variable {α : Type} [Record α]

/-- On every entity `s` and `t` give one answer, or one error, and test the same leaves at the same
places in the same order. Nor is there a difference if the tests do more than to give an answer. -/
structure DecidesAlike (s t : Specification α) : Prop where
  answer (entity : α) : s.isSatisfiedBy entity = t.isSatisfiedBy entity
  tested (entity : α) : s.tested entity = t.tested entity
  run : s.RunsAlike t

theorem decidesAlike_of_runsAlike {s t : Specification α} (h : s.RunsAlike t) :
    DecidesAlike s t where
  answer entity := by
    have heval := (h.placed_eq fun p => p.1.test entity).1
    rw [eval_placed, eval_placed] at heval
    exact heval
  tested entity := (h.placed_eq fun p => p.1.test entity).2
  run := h

/-- The boolean laws hold of all specifications, whether or not their predicates fail, by themselves
(where the context `w` is a hole and nothing else) and within every larger specification. -/
theorem boolean_laws_hold (a b c : Specification α) (w : Context (SpecificationLeaf α)) :
    DecidesAlike (w.fill ((a.and b).and c)) (w.fill (a.and (b.and c))) ∧
      DecidesAlike (w.fill ((a.or b).or c)) (w.fill (a.or (b.or c))) ∧
      DecidesAlike (w.fill (a.and b).not) (w.fill (a.not.or b.not)) ∧
      DecidesAlike (w.fill (a.or b).not) (w.fill (a.not.and b.not)) ∧
      DecidesAlike (w.fill a.not.not) (w.fill a) := by
  have hlaw {s t : Specification α} (h : s.RunsAlike t) : DecidesAlike (w.fill s) (w.fill t) :=
    decidesAlike_of_runsAlike (h.fill w)
  exact ⟨hlaw (.join_assoc false a b c), hlaw (.join_assoc true a b c), hlaw (.not_join false a b),
    hlaw (.not_join true a b), hlaw (.not_not a)⟩

end Specification

end Quarry
