import Quarry.Specification

/-!
# Validation

A validator is a list of rules. A rule is a specification that has to hold, with the field it is
about and the message to report if it does not. Validation reports every rule that does not hold, in
the order of the rules; if a rule has no truth value, it stops there and reports that instead.
-/

namespace Quarry

/-- What is told about a `Rule` that does not hold. -/
structure Violation where
  field : String
  message : String
deriving DecidableEq, Repr

/-- The `violations` of the rules that do not hold for an entity, in the order of the rules. -/
structure ValidationErrors where
  violations : List Violation
deriving DecidableEq, Repr

/-- Why `Validator.validate` refuses an entity. -/
inductive ValidationError where
  | invalid (errors : ValidationErrors)
  | evaluation (cause : EvaluationError)

/-- The text of a `Violation`. -/
def Violation.render (v : Violation) : String :=
  v.field ++ ": " ++ v.message

/-- The texts of all violations, one after the other. -/
def ValidationErrors.render (e : ValidationErrors) : String :=
  String.intercalate "; " (e.violations.map Violation.render)

/-- To the domain, a value that violates rules is a value that failed validation. -/
def ValidationErrors.toDomainError (e : ValidationErrors) : DomainError :=
  .validation e.render

instance : Reported ValidationError where
  report
    | .invalid errors => ⟨"Invalid", errors.render⟩
    | .evaluation cause => Reported.report cause

/-- A `specification` that has to hold, and the `message` about its `field` if it does not. -/
structure Rule (α : Type) where
  field : String
  /-- What to tell if it does not hold. -/
  message : String
  specification : Specification α

/-- The `rules` for entities, in their order. -/
structure Validator (α : Type) where
  rules : List (Rule α)

namespace Validator

variable {α : Type}

/-- The validator `v` with the rule `r` at the end. -/
def push (v : Validator α) (r : Rule α) : Validator α :=
  ⟨v.rules ++ [r]⟩

/-- What is told about those of the rules that `entity` violates. The first rule without a truth
value is reported instead. -/
def violationsOf [Record α] (entity : α) : List (Rule α) → Except EvaluationError (List Violation)
  | [] => .ok []
  | r :: rs =>
    match r.specification.isSatisfiedBy entity with
    | .error e => .error e
    | .ok true => violationsOf entity rs
    | .ok false => (violationsOf entity rs).map (⟨r.field, r.message⟩ :: ·)

/-- What is told about the rules of `v` that `entity` violates (`violationsOf`). -/
def violations [Record α] (v : Validator α) (entity : α) :
    Except EvaluationError (List Violation) :=
  violationsOf entity v.rules

/-- Accepts `entity` if it violates no rule of `v`. -/
def validate [Record α] (v : Validator α) (entity : α) : Except ValidationError Unit :=
  match v.violations entity with
  | .error e => .error (.evaluation e)
  | .ok [] => .ok ()
  | .ok violations => .error (.invalid ⟨violations⟩)

/-- The names of the predicates that `violationsOf` calls, in order. -/
def callsOf [Record α] (entity : α) : List (Rule α) → List String
  | [] => []
  | r :: rs =>
    match r.specification.isSatisfiedBy entity with
    | .error _ => r.specification.calls entity
    | .ok _ => r.specification.calls entity ++ callsOf entity rs

/-- The names of the predicates that are called to validate `entity`, in order. -/
def calls [Record α] (v : Validator α) (entity : α) : List String :=
  callsOf entity v.rules

end Validator

/-! ## JSON -/

namespace Violation

/-- The violation `v` as JSON. -/
def encode (v : Violation) : Json :=
  .object [("field", .string v.field), ("message", .string v.message)]

/-- Reads a violation from `members` of an object, where both texts are required. -/
def ofMembers (members : List (String × Json)) : Except DecodeError Violation := do
  let field ← Json.decodeMember members "field" Json.decodeString
  let message ← Json.decodeMember members "message" Json.decodeString
  let field ← Json.requireField "field" field
  let message ← Json.requireField "message" message
  .ok ⟨field, message⟩

/-- Reads a violation from the items of an array, the field first. -/
def ofItems (items : List Json) : Except DecodeError Violation := do
  let expected := "struct Violation with 2 elements"
  let field ← Json.decodeItem items 0 expected Json.decodeString
  let message ← Json.decodeItem items 1 expected Json.decodeString
  Json.requireNoMore items 2
  .ok ⟨field, message⟩

/-- Reads a violation from an object (`ofMembers`) or an array (`ofItems`). -/
def decode (j : Json) : Except DecodeError Violation :=
  Json.decodeRecord "Violation" ofMembers ofItems j

end Violation

namespace ValidationErrors

/-- The violations of `e` as JSON. -/
def encode (e : ValidationErrors) : Json :=
  .object [("violations", .array (e.violations.map Violation.encode))]

/-- Reads violations from `members` of an object. -/
def ofMembers (members : List (String × Json)) : Except DecodeError ValidationErrors := do
  let list ← Json.decodeMember members "violations" (Json.decodeList Violation.decode)
  let list ← Json.requireField "violations" list
  .ok ⟨list⟩

/-- Reads violations from the items of an array, which has a single one. -/
def ofItems (items : List Json) : Except DecodeError ValidationErrors := do
  let expected := "struct ValidationErrors with 1 element"
  let list ← Json.decodeItem items 0 expected (Json.decodeList Violation.decode)
  Json.requireNoMore items 1
  .ok ⟨list⟩

/-- Reads violations from an object (`ofMembers`) or an array (`ofItems`). -/
def decode (j : Json) : Except DecodeError ValidationErrors :=
  Json.decodeRecord "ValidationErrors" ofMembers ofItems j

end ValidationErrors

end Quarry
