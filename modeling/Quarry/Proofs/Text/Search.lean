import Quarry.Text.Search

/-!
# The parts of a text

A text is cut at every separator, so the parts of two texts with a separator between them are the
parts of the one and then those of the other.
-/

namespace Quarry.Text

theorem splitOn_eq_splitOnP (separator : Char) (cs : List Char) :
    splitOn separator cs = cs.splitOnP (· == separator) := by
  induction cs with
  | nil => rfl
  | cons c cs ih =>
    obtain ⟨part, parts, hparts⟩ :=
      List.exists_cons_of_ne_nil (List.splitOnP_ne_nil (· == separator) cs)
    rw [splitOn, ih, List.splitOnP_cons_eq_if_modifyHead, hparts]
    by_cases h : c = separator
    · simp [h]
    · simp [h]

theorem splitOn_append_cons (separator : Char) (as bs : List Char) :
    splitOn separator (as ++ separator :: bs) = splitOn separator as ++ splitOn separator bs := by
  simp only [splitOn_eq_splitOnP]
  exact List.splitOnP_append_cons as bs (beq_self_eq_true separator)

theorem splitOn_of_not_mem {separator : Char} {cs : List Char} (h : separator ∉ cs) :
    splitOn separator cs = [cs] := by
  rw [splitOn_eq_splitOnP]
  refine List.splitOnP_eq_singleton fun c hc => beq_eq_false_iff_ne.mpr ?_
  rintro rfl
  exact h hc

end Quarry.Text
