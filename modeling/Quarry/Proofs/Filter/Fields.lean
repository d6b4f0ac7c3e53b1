import Mathlib.Data.List.Basic
import Quarry.Proofs.Specification

/-!
# What a filter needs to know of a record

The names of the fields are collected on one way through the criteria, from left to right, where a
name that was met before is passed over. In the end each name stands where it was met first
(`Filter.ListsFirst`). A record counts for the filter only by the values under these names: two
records, of whatever types, that have the same values there have the same outcome
(`Filter.evaluation_dependsOnFields`).
-/

namespace Quarry

/-- A criterion sees no more of a record than the value of its field. -/
theorem Criterion.evaluate_congr {α β : Type} [Record α] [Record β] {r : α} {s : β} {c : Criterion}
    (h : Record.field? r c.field = Record.field? s c.field) : c.evaluate r = c.evaluate s := by
  rw [evaluate, evaluate, h]

namespace Filter

/-! ## Collecting names -/

/-- The list `listed` has each of the `names` once, and they stand in the order in which they first
occur. -/
structure ListsFirst (names listed : List String) : Prop where
  nodup : listed.Nodup
  mem_iff (name : String) : name ∈ listed ↔ name ∈ names
  ordered : listed.Pairwise fun a b => names.idxOf a < names.idxOf b

variable {names listed : List String}

theorem listsFirst_of_ordered (hmem : ∀ name, name ∈ listed ↔ name ∈ names)
    (hordered : listed.Pairwise fun a b => names.idxOf a < names.idxOf b) :
    ListsFirst names listed := by
  refine ⟨?_, hmem, hordered⟩
  refine hordered.imp ?_
  rintro a b hplaces rfl
  exact Nat.lt_irrefl _ hplaces

theorem listsFirst_nil : ListsFirst [] [] :=
  listsFirst_of_ordered (fun _ => Iff.rfl) List.Pairwise.nil

namespace ListsFirst

/-- The names that were met keep their places when one more `name` is met. -/
theorem ordered_concat (h : ListsFirst names listed) (name : String) :
    listed.Pairwise fun a b => (names ++ [name]).idxOf a < (names ++ [name]).idxOf b := by
  refine h.ordered.imp_of_mem ?_
  intro a b ha hb hplaces
  have ha' : a ∈ names := (h.mem_iff a).mp ha
  have hb' : b ∈ names := (h.mem_iff b).mp hb
  rw [List.idxOf_append_of_mem ha', List.idxOf_append_of_mem hb']
  exact hplaces

/-- A `name` that was met before is passed over. -/
theorem concat_of_mem (h : ListsFirst names listed) {name : String} (hname : name ∈ names) :
    ListsFirst (names ++ [name]) listed := by
  refine listsFirst_of_ordered ?_ (h.ordered_concat name)
  intro other
  rw [h.mem_iff other, List.mem_append, List.mem_singleton]
  constructor
  · exact Or.inl
  · rintro (hother | rfl)
    · exact hother
    · exact hname

/-- A new `name` comes last. -/
theorem concat_of_notMem (h : ListsFirst names listed) {name : String} (hname : name ∉ names) :
    ListsFirst (names ++ [name]) (listed ++ [name]) := by
  have hlast : (names ++ [name]).idxOf name = names.length := by
    rw [List.idxOf_append_of_notMem hname]
    simp
  refine listsFirst_of_ordered ?_ ?_
  · intro other
    rw [List.mem_append, List.mem_append, h.mem_iff other]
  · refine List.pairwise_append.mpr ⟨h.ordered_concat name, List.pairwise_singleton _ _, ?_⟩
    intro a ha b hb
    have hold : a ∈ names := (h.mem_iff a).mp ha
    rw [List.mem_singleton.mp hb, hlast, List.idxOf_append_of_mem hold]
    exact List.idxOf_lt_length_of_mem hold

/-- One more name, met before or not, is listed by `Filter.addName`. -/
theorem addName (h : ListsFirst names listed) (name : String) :
    ListsFirst (names ++ [name]) (Filter.addName listed name) := by
  unfold Filter.addName
  by_cases hlisted : name ∈ listed
  · rw [if_pos (List.contains_iff_mem.mpr hlisted)]
    exact h.concat_of_mem ((h.mem_iff name).mp hlisted)
  · rw [if_neg (mt List.contains_iff_mem.mp hlisted)]
    exact h.concat_of_notMem (mt (h.mem_iff name).mpr hlisted)

/-- The way through `f` goes on from the `names` that were met before it. -/
theorem collect (h : ListsFirst names listed) (f : Filter) :
    ListsFirst (names ++ f.leaves.map Criterion.field)
      (f.foldl (fun names c => Filter.addName names c.field) listed) := by
  induction f generalizing names listed with
  | const b =>
    show ListsFirst (names ++ []) listed
    rw [List.append_nil]
    exact h
  | leaf c => exact h.addName c.field
  | and a b iha ihb | or a b iha ihb =>
    have hboth := ihb (iha h)
    rw [List.append_assoc, ← List.map_append] at hboth
    exact hboth
  | not a ih => exact ih h

end ListsFirst

theorem listsFirst_fields (f : Filter) : ListsFirst (f.leaves.map Criterion.field) f.fields := by
  have hcollected := listsFirst_nil.collect f
  rw [List.nil_append] at hcollected
  exact hcollected

/-! ## Two records -/

/-- Records with the same values under the fields of `f` are tested alike. -/
theorem evaluate_congr {α β : Type} [Record α] [Record β] {f : Filter} {r : α} {s : β}
    (h : ∀ name ∈ f.fields, Record.field? r name = Record.field? s name) :
    f.evaluate r = f.evaluate s := by
  refine Formula.eval_congr ?_
  intro c hc
  have hname : c.field ∈ f.fields := by
    rw [(listsFirst_fields f).mem_iff]
    exact List.mem_map_of_mem hc
  exact Criterion.evaluate_congr (h c.field hname)

/-- The fields of `f` are the names in its criteria, each once and in the order in which they first
occur. Records `r` and `s` with the same values under these names, of one type or of two, have the
same truth value or the same error. -/
theorem evaluation_dependsOnFields (f : Filter) :
    ListsFirst (f.leaves.map Criterion.field) f.fields ∧
      ∀ {α β : Type} [Record α] [Record β] (r : α) (s : β),
        (∀ name ∈ f.fields, Record.field? r name = Record.field? s name) →
          f.evaluate r = f.evaluate s := by
  refine ⟨listsFirst_fields f, ?_⟩
  intro α β _ _ r s h
  exact evaluate_congr h

/-- An entity and a document that differ in what the filter does not ask for fail alike. -/
theorem evaluation_dependsOnFields_document :
    let f : Filter := .and (.leaf (.binary .ge "age" (.int 18)))
      (.or (.leaf (.binary .eq "address.zip" (.int 30062))) (.leaf (.binary .lt "age" (.int 65))))
    let r : List (String × Value) :=
      [("name", .text "Ada"), ("address.zip", .text "30062"), ("age", .int 30)]
    let d : Json := .object
      [("address", .object [("city", .null), ("zip", .string "30062")]), ("age", .ofInt64 30)]
    (∀ name ∈ f.fields, Record.field? r name = Record.field? d name) ∧
      f.fields = ["age", "address.zip"] ∧ evaluate f r = evaluate f d ∧
      evaluate f d = .error (.typeMismatch "address.zip" (.incomparable ⟨.text, .int⟩)) := by
  intro f r d
  have hfields : f.fields = ["age", "address.zip"] := by decide
  have hsame : ∀ name ∈ f.fields, Record.field? r name = Record.field? d name := by
    rw [hfields, List.forall_mem_cons, List.forall_mem_singleton]
    exact ⟨rfl, rfl⟩
  exact ⟨hsame, hfields, (evaluation_dependsOnFields f).2 r d hsame, rfl⟩

end Filter

end Quarry
