import Quarry.Error
import Quarry.Json.Codec

/-!
# Errors of repositories

What can go wrong between the domain and a store. The errors of the domain and of specifications are
turned into these where a repository meets them, and a caller in the domain turns them back: what
has a meaning there keeps it, and all else is the violation of an invariant.
-/

namespace Quarry

/-- Why a query is not sent to a store. -/
inductive QueryError where
  | argument (cause : ArgumentError)
  | identifier (text : String)
  /-- The page is larger than a statement can say. -/
  | pageSizeTooLarge
  /-- The page starts later than a statement can say. -/
  | pageOffsetTooLarge
  /-- A reason stated by whoever raised the error. -/
  | stated (detail : String)

/-- The text of a `QueryError`. -/
def QueryError.message : QueryError → String
  | .argument cause => cause.reason
  | .identifier text => "invalid SQL identifier: " ++ Text.quote text
  | .pageSizeTooLarge => "page size too large"
  | .pageOffsetTooLarge => "page offset too large"
  | .stated detail => detail

/-- Why a specification cannot be expressed in the language of a store. -/
inductive ExpressionError where
  | unmappedField (field table : String)
  /-- The operator needs a text as its operand. -/
  | needsText (op : Operator) (field : String) (operand : ValueType)
  /-- Columns cannot be compared with operands of this type. -/
  | notComparable (field : String) (operand : ValueType)
  /-- A predicate is a function of the program. -/
  | predicate (specification table : String)
  /-- A reason stated by whoever raised the error. -/
  | stated (detail : String)

/-- The text of an `ExpressionError`. -/
def ExpressionError.message : ExpressionError → String
  | .unmappedField field table => s!"field `{field}` is not mapped to a column of {table}"
  | .needsText op field operand =>
    op.symbol ++ s!" on `{field}` needs a text operand, got " ++ operand.name
  | .notComparable field operand =>
    s!"`{field}` cannot be compared with a " ++ operand.name ++ " operand in SQL"
  | .predicate specification table =>
    specification ++ " contains an opaque predicate and cannot run against " ++ table
  | .stated detail => detail

/-- Why something cannot be stored as JSON or read back. -/
inductive CodecError where
  | encode (cause : EncodeError)
  | decode (cause : DecodeError)

/-- The text of a `CodecError`. -/
def CodecError.message : CodecError → String
  | .encode cause => cause.reason
  | .decode cause => cause.message

/-- Why a repository did not do what it was asked to. -/
inductive RepositoryError where
  | notFound (aggregateType id : String)
  | duplicate (aggregateType id : String)
  | concurrency (cause : Conflict)
  /-- A predicate has no truth value for a stored aggregate. -/
  | evaluation (cause : EvaluationError)
  | invalidQuery (cause : QueryError)
  /-- The query cannot be expressed in the language of the store. -/
  | inexpressible (cause : ExpressionError)
  /-- An aggregate cannot be stored or read back. -/
  | serialization (cause : CodecError)
  | backend (detail : String)

namespace RepositoryError

/-- The text of a `RepositoryError`. -/
def message : RepositoryError → String
  | .notFound aggregateType id => s!"{aggregateType} {id} not found"
  | .duplicate aggregateType id => s!"{aggregateType} {id} already exists"
  | .concurrency cause => "optimistic concurrency check failed: " ++ cause.message
  | .evaluation cause => cause.message
  | .invalidQuery cause => "invalid query: " ++ cause.message
  | .inexpressible cause => "untranslatable specification: " ++ cause.message
  | .serialization cause => "serialization failed: " ++ cause.message
  | .backend detail => "backend failure: " ++ detail

/-- The name of the kind of a `RepositoryError`. -/
def kind : RepositoryError → String
  | .notFound _ _ => "NotFound"
  | .duplicate _ _ => "Duplicate"
  | .concurrency _ => "Concurrency"
  | .evaluation cause => cause.kind
  | .invalidQuery _ => "InvalidQuery"
  | .inexpressible _ => "Translation"
  | .serialization _ => "Serialization"
  | .backend _ => "Backend"

instance : Reported RepositoryError := ⟨fun e => ⟨e.kind, e.message⟩⟩

/-- A `SpecificationError` as an error of a repository: a specification that cannot be built is a
query that makes no sense. -/
def ofSpecification : SpecificationError → RepositoryError
  | .argument cause => .invalidQuery (.argument cause)
  | .evaluation cause => .evaluation cause

/-- A `DomainError` as an error of a repository: a conflict stays one, and the domain has no other
reason to refuse what a repository does. -/
def ofDomain : DomainError → RepositoryError
  | .conflict cause => .concurrency cause
  | e => .backend e.message

/-- Refuses a write of an aggregate whose stored version `actual` is not `expected`. -/
def checkVersion (expected : ExpectedVersion) (actual : UInt64) : Except RepositoryError Unit :=
  (expected.check actual).mapError ofDomain

/-- The code with which a database reports that a key is taken. -/
def uniqueViolationCode : String := "23505"

/-- The error of a database with the code `code` and the text `text`. A key that is taken means that
another writer was first. -/
def ofDatabase (code : Option String) (text : String) : RepositoryError :=
  if code = some uniqueViolationCode then .concurrency (.stated text)
  else .backend ("error returned from database: " ++ text)

/-- The error as the domain sees it. -/
def toDomain : RepositoryError → DomainError
  | .notFound _ _ => .notFound
  | .duplicate aggregateType id => .conflict (.stated (message (.duplicate aggregateType id)))
  | .concurrency cause => .conflict cause
  | e => .invariantViolation e.message

end RepositoryError

end Quarry
