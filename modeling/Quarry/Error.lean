import Quarry.Json.Decode
import Quarry.Operator
import Quarry.Value

/-!
# Errors of specifications and of the domain

Each kind of failure is an inductive type of causes, and one function per type puts the cause into
words. Evaluating a predicate can fail with an `EvaluationError`; putting together a criterion, a
filter, a page or an ordering from bad input is an `ArgumentError`; a rule of the domain that does
not hold is a `DomainError`.
-/

namespace Quarry

/-! ## Reports -/

/-- What is told about a failure: the name of its `kind`, by which programs tell failures apart, and
a `message` for people. -/
structure Report where
  kind : String
  message : String
deriving DecidableEq, Repr

/-- Types of failures. A failure that only passes another one on has the `Report` of that one. -/
class Reported (ε : Type) where
  report : ε → Report

instance : Reported DecodeError := ⟨fun e => ⟨"Json", e.message⟩⟩

/-! ## Evaluation -/

/-- Why the types of a field and an operand do not fit a test. -/
inductive Mismatch where
  /-- The two values are in no common order. -/
  | incomparable (types : Value.Incomparable)
  /-- The operator needs an operand and there is none. -/
  | operandMissing (op : Operator)
  | startsWithNeedsTexts (field operand : ValueType)
  /-- Nothing of the operand's type is contained in a field of this type. -/
  | containsUndefined (field operand : ValueType)
  | inNeedsList (operand : ValueType)
  /-- A reason stated by whoever raised the error. -/
  | stated (detail : String)

/-- The text of a `Mismatch`. -/
def Mismatch.message : Mismatch → String
  | .incomparable types => "cannot compare " ++ types.left.name ++ " with " ++ types.right.name
  | .operandMissing op => op.symbol ++ " requires an operand"
  | .startsWithNeedsTexts field operand =>
    "STARTS WITH needs text operands, got " ++ field.name ++ " and " ++ operand.name
  | .containsUndefined field operand =>
    "CONTAINS not defined for " ++ field.name ++ " and " ++ operand.name
  | .inNeedsList operand => "IN needs a list operand, got " ++ operand.name
  | .stated detail => detail

/-- Why a specification or filter has no truth value for a record. -/
inductive EvaluationError where
  /-- The record has no field of this name. -/
  | unknownField (name : String)
  /-- The value of the field does not fit the test. -/
  | typeMismatch (field : String) (cause : Mismatch)
  | predicate (reason : String)

/-- The text of an `EvaluationError`. -/
def EvaluationError.message : EvaluationError → String
  | .unknownField name => "unknown field: " ++ name
  | .typeMismatch field cause => "type mismatch on field " ++ field ++ ": " ++ cause.message
  | .predicate reason => "predicate failed: " ++ reason

/-- The name of the kind of an `EvaluationError`. -/
def EvaluationError.kind : EvaluationError → String
  | .unknownField _ => "UnknownField"
  | .typeMismatch _ _ => "TypeMismatch"
  | .predicate _ => "Predicate"

instance : Reported EvaluationError := ⟨fun e => ⟨e.kind, e.message⟩⟩

/-! ## Construction -/

/-- Why input is refused when a criterion, filter, page or ordering is put together. -/
inductive ArgumentError where
  | blankField
  /-- The operator takes no operand and there is one. -/
  | operandNotTaken (op : Operator) (field : String)
  /-- The operator needs an operand and there is none. -/
  | operandMissing (op : Operator) (field : String)
  | inNeedsList (field : String) (operand : ValueType)
  /-- Only the tests for equality can be made against null. -/
  | nullOperand (op : Operator) (field : String)
  | pageIndex (index : Int)
  /-- The size of a page is not positive. -/
  | pageSize (size : Int)
  /-- The number of items before a page does not fit in 64 bits. -/
  | pageOffset
  | sortDirection (text : String)
  | predicateAbsent
  | malformedFilter (cause : DecodeError)
  /-- A reason stated by whoever raised the error. -/
  | stated (detail : String)

/-- The reason that an `ArgumentError` gives, without the words in front of it (`message`). -/
def ArgumentError.reason : ArgumentError → String
  | .blankField => "criterion field cannot be empty"
  | .operandNotTaken op field => op.symbol ++ s!" on `{field}` takes no operand"
  | .operandMissing op field => op.symbol ++ s!" on `{field}` requires an operand"
  | .inNeedsList field operand => s!"IN on `{field}` requires a list operand, got " ++ operand.name
  | .nullOperand op field => op.symbol ++ s!" on `{field}` cannot take a null operand"
  | .pageIndex index => s!"page index must be >= 0 (got {index})"
  | .pageSize size => s!"page size must be > 0 (got {size})"
  | .pageOffset => "page offset overflows"
  | .sortDirection text => "unknown sort direction: " ++ text
  | .predicateAbsent => "predicate is absent"
  | .malformedFilter cause => "malformed filter: " ++ cause.message
  | .stated detail => detail

/-- The text of an `ArgumentError`. -/
def ArgumentError.message (e : ArgumentError) : String :=
  "invalid argument: " ++ e.reason

instance : Reported ArgumentError := ⟨fun e => ⟨"InvalidArgument", e.message⟩⟩

/-- Why a specification cannot be built or evaluated. -/
inductive SpecificationError where
  | argument (cause : ArgumentError)
  /-- It has no truth value for a record. -/
  | evaluation (cause : EvaluationError)

/-- The text of a `SpecificationError`, which is that of its cause. -/
def SpecificationError.message : SpecificationError → String
  | .argument cause => cause.message
  | .evaluation cause => cause.message

/-! ## The domain -/

/-- The version that a writer expects an aggregate to have: `any` or `exact`ly one. -/
inductive ExpectedVersion where
  | any
  | exact (version : UInt64)
deriving DecidableEq, Repr

/-- The text of an `ExpectedVersion`. -/
def ExpectedVersion.message : ExpectedVersion → String
  | .any => "Any"
  | .exact version => "Exact(" ++ toString version.toNat ++ ")"

/-- Why two writers are in conflict. -/
inductive Conflict where
  /-- The stored version is not the expected one. -/
  | staleVersion (expected : ExpectedVersion) (actual : UInt64)
  /-- A reason stated by whoever raised the error. -/
  | stated (detail : String)

/-- The text of a `Conflict`. -/
def Conflict.message : Conflict → String
  | .staleVersion expected actual =>
    "optimistic concurrency check failed (expected: " ++ expected.message ++ ", actual: " ++
      toString actual.toNat ++ ")"
  | .stated detail => detail

/-- Why the domain refuses something. -/
inductive DomainError where
  /-- A value does not satisfy the rules for it. -/
  | validation (detail : String)
  /-- Something that always has to hold would not hold. -/
  | invariantViolation (detail : String)
  /-- A text is no identifier of the named kind. -/
  | invalidId (detail : String)
  | notFound
  | conflict (cause : Conflict)

/-- The text of a `DomainError`. -/
def DomainError.message : DomainError → String
  | .validation detail => "validation failed: " ++ detail
  | .invariantViolation detail => "invariant violated: " ++ detail
  | .invalidId detail => "invalid identifier: " ++ detail
  | .notFound => "not found"
  | .conflict cause => "conflict: " ++ cause.message

/-- The name of the kind of a `DomainError`. -/
def DomainError.kind : DomainError → String
  | .validation _ => "Validation"
  | .invariantViolation _ => "InvariantViolation"
  | .invalidId _ => "InvalidId"
  | .notFound => "NotFound"
  | .conflict _ => "Conflict"

instance : Reported DomainError := ⟨fun e => ⟨e.kind, e.message⟩⟩

namespace ExpectedVersion

/-- The actual version is as expected: `any` accepts all versions. -/
def accepts : ExpectedVersion → UInt64 → Bool
  | .any, _ => true
  | .exact version, actual => version == actual

/-- Refuses the version `actual` with a conflict, unless `expected` accepts it. -/
def check (expected : ExpectedVersion) (actual : UInt64) : Except DomainError Unit :=
  if expected.accepts actual then .ok ()
  else .error (.conflict (.staleVersion expected actual))

end ExpectedVersion

end Quarry
