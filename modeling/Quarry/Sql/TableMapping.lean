import Quarry.Sql.Identifier
import Quarry.SortedMap

/-!
# Table mappings

Which table holds the entities, which of its columns is the key, and which fields are held in which
columns. Only mapped fields can be queried. The fields are kept in the order of their names.
-/

namespace Quarry.Sql

/-- Whether a column holds one value or an array of them. -/
inductive ColumnKind where
  | scalar
  | array
deriving DecidableEq, Repr

/-- The column `name` that holds a field, and whether it holds an array. -/
structure Column where
  name : Identifier
  kind : ColumnKind
deriving DecidableEq

/-- The columns in which `table` has the fields of an entity. -/
structure TableMapping where
  table : TableName
  /-- The column of the key, which decides between equal entities when they are sorted. -/
  key : Identifier
  /-- The columns of the fields, in the order of the fields' names. -/
  columns : SortedMap String Column

namespace TableMapping

/-- The name of the key column unless another one is given. -/
def defaultKey : Identifier := ⟨"id", by decide⟩

/-- The mapping to `table` without fields. -/
def ofTable (table : String) : Except RepositoryError TableMapping :=
  (TableName.read table).map fun t => ⟨t, defaultKey, .empty⟩

/-- The mapping `m` with another key column. -/
def withKey (m : TableMapping) (key : String) : Except RepositoryError TableMapping :=
  (Identifier.read key).map fun k => { m with key := k }

/-- The mapping `m` with `field` in `column`, which holds what `kind` says. -/
def withColumn (m : TableMapping) (field column : String) (kind : ColumnKind) :
    Except RepositoryError TableMapping :=
  (Identifier.read column).map fun name =>
    { m with columns := m.columns.insert field ⟨name, kind⟩ }

/-- The fields that `m` maps, in their order. -/
def fields (m : TableMapping) : List String :=
  m.columns.keys

/-- The column of `field`, which has to be mapped. -/
def resolve (m : TableMapping) (field : String) : Except RepositoryError Column :=
  match m.columns.find? field with
  | some column => .ok column
  | none => .error (.inexpressible (.unmappedField field m.table.text))

end TableMapping

end Quarry.Sql
