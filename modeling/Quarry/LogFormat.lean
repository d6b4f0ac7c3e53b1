import Quarry.Text.Blank

/-!
# Log format

The form of the lines that a process logs. It is chosen by a variable, and whatever that holds,
there is a form: without a choice that is understood, lines are JSON.
-/

namespace Quarry

/-- The form of a logged line. -/
inductive LogFormat where
  | json
  | text
deriving DecidableEq, Repr

/-- The name of the variable that chooses the form. -/
def LogFormat.variable : String := "REPOKIT_LOG_FORMAT"

/-- The form that `value` of the variable chooses; without a value, or with an unknown one, it is
JSON. -/
def LogFormat.read (value : Option String) : LogFormat :=
  match value with
  | some s =>
    let word := Text.trim s
    if word = "text" ∨ word = "pretty" then .text else .json
  | none => .json

end Quarry
