import Mathlib.Data.List.Induction
import Quarry.Proofs.Except
import Quarry.Proofs.SortedMap
import Quarry.Sql.TableMapping

/-!
# How mappings are built

A mapping is built from the name of a table by steps that name the key column or the column of a
field. A step that gives a name again takes the place of the earlier one, so the steps alone say
which names the mapping ends up with (`TableMapping.build_isNamed`). A name that is no identifier
ends the building.
-/

namespace Quarry.Sql

/-- A step in building a mapping: `key` names the column of the key, and `column` that of a field.
-/
inductive MappingStep where
  /-- The key is in this column. -/
  | key (column : String)
  /-- The field is in this column. -/
  | column (field column : String) (kind : ColumnKind)

namespace MappingStep

/-- The mapping that a step makes of `m`, or the first name that is no identifier. -/
def apply (m : TableMapping) : MappingStep → Except RepositoryError TableMapping
  | .key name => m.withKey name
  | .column field name kind => m.withColumn field name kind

/-- The name of the key column that a step gives. -/
def key? : MappingStep → Option String
  | .key name => some name
  | .column _ _ _ => none

/-- The name of the column that a step gives to `field`. -/
def column? (field : String) : MappingStep → Option String
  | .key _ => none
  | .column f name _ => if f = field then some name else none

end MappingStep

/-- The key column that `steps` lead to: the last one named, or `id`. -/
def keyColumn (steps : List MappingStep) : String :=
  (steps.reverse.findSome? MappingStep.key?).getD "id"

/-- The column of `field` that `steps` lead to: the last one named. -/
def fieldColumn? (steps : List MappingStep) (field : String) : Option String :=
  steps.reverse.findSome? (MappingStep.column? field)

theorem keyColumn_concat (steps : List MappingStep) (step : MappingStep) :
    keyColumn (steps ++ [step]) = step.key?.getD (keyColumn steps) := by
  unfold keyColumn
  rw [List.reverse_concat, List.findSome?_cons]
  cases step.key? <;> rfl

/-- A further step has a say in the column of `field` if it names one. -/
theorem fieldColumn?_concat (steps : List MappingStep) (step : MappingStep) (field : String) :
    fieldColumn? (steps ++ [step]) field = (step.column? field).or (fieldColumn? steps field) := by
  unfold fieldColumn?
  rw [List.reverse_concat, List.findSome?_cons]
  cases step.column? field <;> rfl

theorem Identifier.text_of_read {s : String} {i : Identifier} (h : Identifier.read s = .ok i) :
    i.text = s := by
  unfold Identifier.read at h
  split at h
  · cases h
    rfl
  · cases h

/-- The segments of a table are the parts of its name `s` between the dots. -/
theorem TableName.segments_of_read {s : String} {t : TableName} (h : TableName.read s = .ok t) :
    t.segments.map Identifier.text = Text.split '.' s := by
  obtain ⟨segments, hsegments, rfl⟩ := map_eq_ok_iff.mp h
  exact map_of_mapM_eq_ok (fun _ _ => Identifier.text_of_read) hsegments

namespace TableMapping

/-- The mapping of `table` after some `steps`. The first name that is no identifier is reported. -/
def build (table : String) (steps : List MappingStep) : Except RepositoryError TableMapping := do
  let m ← ofTable table
  steps.foldlM MappingStep.apply m

/-- The names of `m` are those that `table` and `steps` lead to. -/
structure IsNamed (table : String) (steps : List MappingStep) (m : TableMapping) : Prop where
  segments : m.table.segments.map Identifier.text = Text.split '.' table
  key : m.key.text = keyColumn steps
  column (field : String) :
    (m.columns.find? field).map (fun c => c.name.text) = fieldColumn? steps field

theorem isNamed_ofTable {table : String} {m : TableMapping} (h : ofTable table = .ok m) :
    m.IsNamed table [] := by
  obtain ⟨t, ht, rfl⟩ := map_eq_ok_iff.mp h
  exact ⟨TableName.segments_of_read ht, rfl, fun _ => rfl⟩

theorem IsNamed.apply {table : String} {steps : List MappingStep} {m m' : TableMapping}
    (hm : m.IsNamed table steps) {step : MappingStep} (h : step.apply m = .ok m') :
    m'.IsNamed table (steps ++ [step]) := by
  cases step with
  | key column =>
    obtain ⟨k, hk, rfl⟩ := map_eq_ok_iff.mp h
    refine ⟨hm.segments, ?_, fun field => ?_⟩
    · rw [keyColumn_concat]
      exact Identifier.text_of_read hk
    · rw [fieldColumn?_concat]
      exact hm.column field
  | column f column kind =>
    obtain ⟨name, hname, rfl⟩ := map_eq_ok_iff.mp h
    refine ⟨hm.segments, ?_, fun field => ?_⟩
    · rw [keyColumn_concat]
      exact hm.key
    · rw [fieldColumn?_concat, MappingStep.column?]
      by_cases hf : f = field
      · subst hf
        rw [SortedMap.find?_insert_self, if_pos rfl]
        exact congrArg some (Identifier.text_of_read hname)
      · rw [SortedMap.find?_insert_of_ne _ (Ne.symm hf), if_neg hf]
        exact hm.column field

/-- Whatever the `steps` were, a mapping that is built has the names that they lead to. -/
theorem build_isNamed {table : String} {steps : List MappingStep} {m : TableMapping}
    (h : build table steps = .ok m) : m.IsNamed table steps := by
  obtain ⟨m₀, htable, hsteps⟩ := bind_eq_ok_iff.mp h
  clear h
  induction steps using List.reverseRecOn generalizing m with
  | nil =>
    cases hsteps
    exact isNamed_ofTable htable
  | append_singleton steps step ih =>
    rw [List.foldlM_append] at hsteps
    obtain ⟨m₁, hbefore, hlast⟩ := bind_eq_ok_iff.mp hsteps
    rw [List.foldlM_cons] at hlast
    obtain ⟨m₂, hstep, hnil⟩ := bind_eq_ok_iff.mp hlast
    cases hnil
    exact (ih hbefore).apply hstep

end TableMapping

end Quarry.Sql
