import Quarry.Repository.Error
import Quarry.Text.Search

/-!
# SQL identifiers

The names of tables and columns that may stand in a statement: an ASCII letter or an underscore,
followed by letters, digits and underscores. No such name contains a quote, so it can be put between
quotes as it is.
-/

namespace Quarry.Sql

/-- An identifier can start with the character `c`. -/
def isIdentifierStart (c : Char) : Bool :=
  c.isAlpha || c = '_'

/-- An identifier can go on with the character `c`. -/
def isIdentifierPart (c : Char) : Bool :=
  c.isAlphanum || c = '_'

/-- Whether the characters are an identifier. -/
def isIdentifier : List Char → Bool
  | [] => false
  | c :: cs => isIdentifierStart c && cs.all isIdentifierPart

/-- A name that may stand in a statement, by `isIdentifier`. -/
structure Identifier where
  text : String
  valid : isIdentifier text.toList = true
deriving DecidableEq

/-- Accepts the text `s`, which has to be an identifier. -/
def Identifier.read (s : String) : Except RepositoryError Identifier :=
  if h : isIdentifier s.toList = true then .ok ⟨s, h⟩
  else .error (.invalidQuery (.identifier s))

/-- The name of a table, which a schema may qualify. -/
structure TableName where
  /-- The parts between the dots, the table last. -/
  segments : List Identifier
deriving DecidableEq

namespace TableName

/-- Accepts the text `s`, whose parts between dots have to be identifiers. -/
def read (s : String) : Except RepositoryError TableName :=
  ((Text.split '.' s).mapM Identifier.read).map TableName.mk

/-- The parts of the name `t`, joined by dots. -/
def text (t : TableName) : String :=
  String.intercalate "." (t.segments.map Identifier.text)

end TableName

end Quarry.Sql
