import Quarry.Filter
import Quarry.Proofs.Json.Members
import Quarry.Proofs.Specification.Evaluation

/-!
# Null members of documents

A key that is missing from an object reads as null, and so does a key whose value is null. That goes
for the end of a path only. Behind a missing key every path reads as null, but behind a key that is
null no path leads to a field (`Json.valueAt?_withoutNulls`).

So a document passes the same filters without its null members, unless the evaluation gets to a
criterion whose path goes on behind a null. Then it fails, and without the null members it would not
fail for that reason (`Filter.evaluate_withoutNulls_eq_iff`).
-/

namespace Quarry

/-- Tests that agree on the leaves that are visited give `f` the same value. -/
theorem Formula.eval_congr_visited {ι ε : Type} {test test' : ι → Except ε Bool} {f : Formula ι}
    (h : ∀ l ∈ f.visited test, test' l = test l) : f.eval test' = f.eval test := by
  have hmap := (eval_map_of_visited (g := id) h).1
  rwa [map_id] at hmap

namespace Json

/-! ## Documents without null members -/

mutual

/-- The document without the members whose value is null, in each object that is reached through
objects. -/
def withoutNulls : Json → Json
  | .object members => .object (withoutNullMembers members)
  | j => j

/-- The members whose value is not null, with their values in the same way. -/
def withoutNullMembers : List (String × Json) → List (String × Json)
  | [] => []
  | (k, v) :: ms =>
    if v.isNull then withoutNullMembers ms else (k, withoutNulls v) :: withoutNullMembers ms

end

/-- No object that is reached through objects has two members with one key. -/
inductive HasDistinctKeys : Json → Prop where
  | object {members : List (String × Json)} (keys : (members.map Prod.fst).Nodup)
    (values : ∀ m ∈ members, HasDistinctKeys m.2) : HasDistinctKeys (.object members)
  | other {j : Json} (h : ∀ members, j ≠ .object members) : HasDistinctKeys j

/-- Whether a part of the path that is not the last one leads to a null. -/
def leadsThroughNull : List String → Json → Bool
  | key :: next :: path, .object members =>
    match member? key members with
    | some node => node.isNull || leadsThroughNull (next :: path) node
    | none => false
  | _, _ => false

theorem mem_of_member? {key : String} {members : List (String × Json)} {j : Json}
    (h : member? key members = some j) : (key, j) ∈ members := by
  rw [member?_eq_find?] at h
  exact SortedEntries.mem_of_find? h

theorem eq_null_of_isNull {j : Json} (h : j.isNull = true) : j = .null := by
  cases j with
  | null => rfl
  | _ => cases h

theorem HasDistinctKeys.nodup {members : List (String × Json)}
    (h : HasDistinctKeys (.object members)) : (members.map Prod.fst).Nodup := by
  cases h with
  | object keys _ => exact keys
  | other h => exact absurd rfl (h members)

theorem HasDistinctKeys.member? {key : String} {members : List (String × Json)} {j : Json}
    (h : HasDistinctKeys (.object members)) (hj : Json.member? key members = some j) :
    j.HasDistinctKeys := by
  cases h with
  | object _ values => exact values _ (mem_of_member? hj)
  | other h => exact absurd rfl (h members)

/-! ## Stored documents -/

/-- Sorted members have no key twice, and their values are values that there were before. -/
theorem ascending_sortMembers (members : List (String × Json)) :
    SortedEntries.Ascending (sortMembers members) ∧
      ∀ m ∈ sortMembers members, m ∈ members := by
  have hfold (sorted : List (String × Json)) (hsorted : SortedEntries.Ascending sorted) :
      SortedEntries.Ascending
          (members.foldl (fun sorted m => SortedEntries.insert m.1 m.2 sorted) sorted) ∧
        ∀ m ∈ members.foldl (fun sorted m => SortedEntries.insert m.1 m.2 sorted) sorted,
          m ∈ members ∨ m ∈ sorted := by
    induction members generalizing sorted with
    | nil => exact ⟨hsorted, fun m hm => Or.inr hm⟩
    | cons head rest ih =>
      obtain ⟨hasc, hmem⟩ := ih _ (SortedEntries.ascending_insert head.1 head.2 hsorted)
      refine ⟨hasc, fun m hm => ?_⟩
      rcases hmem m hm with h | h
      · exact Or.inl (List.mem_cons_of_mem _ h)
      · rcases SortedEntries.mem_of_mem_insert h with rfl | h
        · exact Or.inl List.mem_cons_self
        · exact Or.inr h
  obtain ⟨hasc, hmem⟩ := hfold [] List.Pairwise.nil
  exact ⟨hasc, fun m hm => (hmem m hm).elim id fun h => absurd h List.not_mem_nil⟩

theorem nodup_sortMembers (members : List (String × Json)) :
    ((sortMembers members).map Prod.fst).Nodup := by
  rw [List.Nodup, List.pairwise_map]
  refine (ascending_sortMembers members).1.imp fun {a b} hlt heq => ?_
  have hself : compare b.1 b.1 = .eq := Std.ReflCmp.compare_self
  rw [heq, hself] at hlt
  cases hlt

mutual

/-- What is read from text and what is stored has its members sorted, so no key occurs twice. -/
theorem hasDistinctKeys_sorted (j : Json) : j.sorted.HasDistinctKeys := by
  match j with
  | .null => exact .other nofun
  | .bool b => exact .other nofun
  | .number n => exact .other nofun
  | .string s => exact .other nofun
  | .array items => exact .other nofun
  | .object members =>
    refine .object (nodup_sortMembers _) fun m hm => ?_
    exact hasDistinctKeys_sortedMembers members m ((ascending_sortMembers _).2 m hm)

theorem hasDistinctKeys_sortedMembers (members : List (String × Json)) :
    ∀ m ∈ sortedMembers members, m.2.HasDistinctKeys := by
  match members with
  | [] => exact nofun
  | (k, v) :: ms =>
    intro m hm
    rcases List.mem_cons.mp hm with rfl | hm
    · exact hasDistinctKeys_sorted v
    · exact hasDistinctKeys_sortedMembers ms m hm

end

/-! ## Reading paths -/

/-- Without the null members a `key` has its value if that is not null. -/
theorem member?_withoutNullMembers (key : String) {members : List (String × Json)}
    (hkeys : (members.map Prod.fst).Nodup) :
    member? key (withoutNullMembers members) =
      ((member? key members).filter (!·.isNull)).map withoutNulls := by
  induction members with
  | nil => rfl
  | cons m rest ih =>
    obtain ⟨k, v⟩ := m
    obtain ⟨hk, hrest⟩ := List.nodup_cons.mp hkeys
    have hrest := ih hrest
    unfold member? at hrest ⊢
    rw [withoutNullMembers, List.lookup_cons]
    by_cases h : key = k
    · subst h
      rw [beq_self_eq_true]
      by_cases hnull : v.isNull = true
      · have hnone : rest.lookup key = none := by
          rw [List.lookup_eq_none_iff]
          intro m hm
          rw [bne_iff_ne]
          intro heq
          exact hk (List.mem_map.mpr ⟨m, hm, heq.symm⟩)
        rw [if_pos hnull, hrest, hnone, Option.filter_some, hnull]
        rfl
      · rw [if_neg hnull, List.lookup_cons, beq_self_eq_true, Option.filter_some,
          Bool.eq_false_iff.mpr hnull]
        rfl
    · rw [beq_false_of_ne h]
      by_cases hnull : v.isNull = true
      · rw [if_pos hnull, hrest]
      · rw [if_neg hnull, List.lookup_cons, beq_false_of_ne h]
        exact hrest

theorem ofJson?_withoutNulls (j : Json) : Value.ofJson? j.withoutNulls = Value.ofJson? j := by
  cases j <;> rfl

section Member

variable {key : String} {path : List String} {members : List (String × Json)} {node : Json}

/-- A path goes on in the `node` that its first `key` leads to. -/
theorem valueAt?_of_member? (h : member? key members = some node) :
    valueAt? (key :: path) (.object members) = valueAt? path node := by
  rw [valueAt?, h]

/-- A path whose first `key` leads nowhere reads as null. -/
theorem valueAt?_of_no_member? (h : member? key members = none) :
    valueAt? (key :: path) (.object members) = some .null := by
  rw [valueAt?, h]

/-- Only what is behind a `node` can be cut off by it. -/
theorem leadsThroughNull_of_member? (h : member? key members = some node) :
    leadsThroughNull (key :: path) (.object members) =
      (!path.isEmpty && node.isNull || leadsThroughNull path node) := by
  cases path with
  | nil => cases node <;> rfl
  | cons next path =>
    rw [leadsThroughNull, h]
    rfl

theorem leadsThroughNull_of_no_member? (h : member? key members = none) :
    leadsThroughNull (key :: path) (.object members) = false := by
  cases path with
  | nil => rfl
  | cons next path => rw [leadsThroughNull, h]

end Member

theorem valueAt?_null (path : List String) :
    valueAt? path null = if path.isEmpty then some .null else none := by
  cases path <;> rfl

theorem valueAt?_of_leadsThroughNull {path : List String} {d : Json}
    (h : d.leadsThroughNull path = true) : valueAt? path d = none := by
  induction path generalizing d with
  | nil => cases d <;> cases h
  | cons key path ih =>
    cases d with
    | object members =>
      cases hnode : member? key members with
      | none =>
        rw [leadsThroughNull_of_no_member? hnode] at h
        cases h
      | some node =>
        rw [leadsThroughNull_of_member? hnode] at h
        rw [valueAt?_of_member? hnode]
        rcases Bool.or_eq_true_iff.mp h with hnull | hbehind
        · obtain ⟨hpath, hnull⟩ := Bool.and_eq_true_iff.mp hnull
          rw [eq_null_of_isNull hnull, valueAt?_null, if_neg (by simpa using hpath)]
        · exact ih hbehind
    | _ => cases path <;> cases h

/-- Without the null members a `path` reads what it reads with them, but for those paths that go on
behind a null. These read as null then. -/
theorem valueAt?_withoutNulls {d : Json} (hd : d.HasDistinctKeys) (path : List String) :
    valueAt? path d.withoutNulls =
      if d.leadsThroughNull path then some .null else valueAt? path d := by
  induction path generalizing d with
  | nil =>
    have hnone : leadsThroughNull [] d = false := by
      cases d <;> rfl
    rw [hnone, valueAt?, valueAt?]
    exact ofJson?_withoutNulls d
  | cons key path ih =>
    cases d with
    | object members =>
      have hmember := member?_withoutNullMembers key hd.nodup
      rw [withoutNulls]
      cases hnode : member? key members with
      | none =>
        rw [hnode] at hmember
        rw [valueAt?_of_no_member? hmember, valueAt?_of_no_member? hnode, ite_self]
      | some node =>
        rw [hnode, Option.filter_some] at hmember
        rw [leadsThroughNull_of_member? hnode, valueAt?_of_member? hnode]
        by_cases hnull : node.isNull = true
        · obtain rfl := eq_null_of_isNull hnull
          rw [valueAt?_of_no_member? hmember, valueAt?_null]
          cases path <;> rfl
        · rw [Bool.eq_false_iff.mpr hnull] at hmember ⊢
          rw [valueAt?_of_member? hmember, ih (HasDistinctKeys.member? hd hnode), Bool.and_false,
            Bool.false_or]
    | _ => cases path <;> rfl

end Json

/-! ## Criteria -/

namespace Criterion

/-- The names on the way to the field of `c` in a document. -/
def path (c : Criterion) : List String :=
  Text.split '.' c.field

variable {d : Json} {c : Criterion}

/-- A criterion whose path goes on behind a null has an unknown field. -/
theorem evaluate_of_leadsThroughNull (h : d.leadsThroughNull c.path = true) :
    c.evaluate d = .error (.unknownField c.field) := by
  have hfield : Record.field? d c.field = none := Json.valueAt?_of_leadsThroughNull h
  rw [evaluate, hfield]

/-- Any other criterion is tested alike with and without the null members. -/
theorem evaluate_withoutNulls (hd : d.HasDistinctKeys) (h : d.leadsThroughNull c.path = false) :
    c.evaluate d.withoutNulls = c.evaluate d := by
  have hfield : Record.field? d.withoutNulls c.field = Record.field? d c.field := by
    refine (Json.valueAt?_withoutNulls hd c.path).trans ?_
    rw [h]
    rfl
  rw [evaluate, evaluate, hfield]

/-- A criterion is about the field that it reports as unknown, and the document `d` has no such
field. -/
theorem unknownField_of_evaluate {name : String} (h : c.evaluate d = .error (.unknownField name)) :
    name = c.field ∧ Record.field? d c.field = none := by
  rw [evaluate] at h
  cases hfield : Record.field? d c.field with
  | none =>
    rw [hfield] at h
    cases h
    exact ⟨rfl, rfl⟩
  | some v =>
    rw [hfield] at h
    replace h : (c.testValue v).mapError _ = .error _ := h
    cases htest : c.testValue v with
    | error e =>
      rw [htest] at h
      cases h
    | ok b =>
      rw [htest] at h
      cases h

end Criterion

/-! ## Filters -/

namespace Filter

variable {d : Json} {f : Filter}

/-- A criterion `c` that gets to a path behind a null ends the evaluation. -/
theorem evaluate_of_leadsThroughNull {c : Criterion}
    (hc : c ∈ f.visited (·.evaluate d)) (h : d.leadsThroughNull c.path = true) :
    f.evaluate d = .error (.unknownField c.field) := by
  have herror := Criterion.evaluate_of_leadsThroughNull h
  cases heval : f.evaluate d with
  | ok b =>
    obtain ⟨b', hb⟩ := Formula.exists_ok_of_eval heval c hc
    cases herror.symm.trans hb
  | error e =>
    obtain ⟨before, last, hvisited, hlast, hbefore⟩ := Formula.exists_last_of_eval heval
    rw [hvisited] at hc
    rcases List.mem_append.mp hc with hc | hc
    · obtain ⟨b, hb⟩ := hbefore c hc
      cases herror.symm.trans hb
    · rw [← List.mem_singleton.mp hc] at hlast
      exact hlast.symm.trans herror

theorem evaluate_withoutNulls_ne (hd : d.HasDistinctKeys) {c : Criterion}
    (h : d.leadsThroughNull c.path = true) :
    f.evaluate d.withoutNulls ≠ .error (.unknownField c.field) := by
  intro heval
  obtain ⟨before, last, -, hlast, -⟩ := Formula.exists_last_of_eval heval
  obtain ⟨hname, hnone⟩ := Criterion.unknownField_of_evaluate hlast
  have hsome : Record.field? d.withoutNulls c.field = some .null := by
    refine (Json.valueAt?_withoutNulls hd c.path).trans ?_
    rw [h]
    rfl
  rw [← hname, hsome] at hnone
  cases hnone

/-- The exact condition under which the null members of a document `d` make no difference to a
filter `f`: no criterion that the evaluation gets to has a path that goes on behind a null. Such a
criterion fails for want of the field, and without the null members the filter does not fail for
want of that field. -/
theorem evaluate_withoutNulls_eq_iff (hd : d.HasDistinctKeys) :
    (f.evaluate d.withoutNulls = f.evaluate d ↔
      ∀ c ∈ f.visited (·.evaluate d), d.leadsThroughNull c.path = false) ∧
    ∀ c ∈ f.visited (·.evaluate d), d.leadsThroughNull c.path = true →
      f.evaluate d = .error (.unknownField c.field) ∧
        f.evaluate d.withoutNulls ≠ .error (.unknownField c.field) := by
  have hfails : ∀ c ∈ f.visited (·.evaluate d), d.leadsThroughNull c.path = true →
      f.evaluate d = .error (.unknownField c.field) ∧
        f.evaluate d.withoutNulls ≠ .error (.unknownField c.field) := fun c hc h =>
    ⟨evaluate_of_leadsThroughNull hc h, evaluate_withoutNulls_ne hd h⟩
  refine ⟨⟨fun hsame c hc => ?_, fun h => ?_⟩, hfails⟩
  · refine Bool.eq_false_iff.mpr fun hnull => ?_
    obtain ⟨herror, hne⟩ := hfails c hc hnull
    exact hne (hsame.trans herror)
  · exact Formula.eval_congr_visited fun c hc => Criterion.evaluate_withoutNulls hd (h c hc)

theorem evaluate_withoutNulls_eq_iff_nested :
    let d : Json := .object
      [("address", .object [("city", .string "Paris"), ("geo", .null)]), ("zip_code", .null)]
    let city : Filter := .leaf (.binary .eq "address.city" (.text "Paris"))
    let latitude : Filter := .leaf (.unary .isNull "address.geo.latitude")
    d.HasDistinctKeys ∧
      evaluate (city.or latitude) d.withoutNulls = evaluate (city.or latitude) d ∧
      evaluate (city.and latitude) d = .error (.unknownField "address.geo.latitude") ∧
      evaluate (city.and latitude) d.withoutNulls ≠ evaluate (city.and latitude) d := by
  intro d city latitude
  have hd : d.HasDistinctKeys := Json.hasDistinctKeys_sorted d
  have hfirst := (evaluate_withoutNulls_eq_iff (f := city.or latitude) hd).1.mpr fun c hc => by
    rw [List.mem_singleton.mp hc]
    rfl
  have hmem : Criterion.unary .isNull "address.geo.latitude" ∈
      (city.and latitude).visited (·.evaluate d) := List.mem_cons_of_mem _ List.mem_cons_self
  obtain ⟨hfails, hne⟩ := (evaluate_withoutNulls_eq_iff hd).2 _ hmem rfl
  exact ⟨hd, hfirst, hfails, fun heq => hne (heq.trans hfails)⟩

/-- A document whose address is null, and a filter on the city that fails for it and does not fail
without the address. -/
theorem exists_evaluate_withoutNulls_ne :
    let d : Json := .object [("address", .null)]
    let f : Filter := .leaf (.binary .eq "address.city" (.text "Paris"))
    (d.HasDistinctKeys ∧ f.validate = .ok () ∧ d.withoutNulls = .object []) ∧
      f.evaluate d = .error (.unknownField "address.city") ∧
      f.evaluate d.withoutNulls = .ok false := by
  intro d f
  exact ⟨⟨Json.hasDistinctKeys_sorted d, rfl, rfl⟩, rfl, rfl⟩

end Filter

end Quarry
