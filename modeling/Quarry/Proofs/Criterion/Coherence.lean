import Quarry.Proofs.Filter.Typed
import Quarry.Proofs.Value.Comparing

/-!
# How the tests of a field fit together

Each of the six comparisons reads the order of a field and an operand in its own way, and membership
is tested by a loop of its own. Still they say the same about a field. The comparisons all fail, or
none of them holds, or the field is below, at or above the operand, and each of the six says where
(`Criterion.comparisons_areCoherent`). A field is a member of some values if it equals one of them
(`Criterion.among_isChainOfEqualities`). That is so for nulls as well, which equality asks for in
another way than membership does (`Criterion.testOperand_eq`), and for failures: the first value that
the field equals, or cannot be compared with, settles the membership.
-/

namespace Quarry

/-! ## The six comparisons -/

namespace Criterion

/-- What the six comparisons of a `field` that has the value `k` with the operand `v` can come to,
where `outcome` is what each comes to. -/
inductive AreCoherent (field : String) (k v : Value)
    (outcome : Operator → Except EvaluationError Bool) : Prop where
  /-- They all fail with one error. -/
  | mismatch (types : k.type.meets v.type = false)
      (fail : ∀ op, op.isComparison = true →
        outcome op = .error (.typeMismatch field (.incomparable ⟨k.type, v.type⟩)))
  /-- The field is null or there is a NaN, and none of them holds. -/
  | unordered (types : k.type.meets v.type = true)
      (unordered : (k.isNull || k.isNaN || v.isNaN) = true)
      (refute : ∀ op, op.isComparison = true → outcome op = .ok false)
  /-- The field is on one side of the operand or equal to it. -/
  | ordered (types : k.type.meets v.type = true)
      (ordered : (k.isNull || k.isNaN || v.isNaN) = false)
      (below equal above : Bool) (one : [below, equal, above].count true = 1)
      (lt : outcome .lt = .ok below) (eq : outcome .eq = .ok equal) (gt : outcome .gt = .ok above)
      (le : outcome .le = .ok (below || equal)) (ge : outcome .ge = .ok (above || equal))
      (ne : outcome .ne = .ok (below || above))

section

variable {α : Type} [Record α] {record : α} {field : String} {k v : Value}

/-- A comparison of the field `k` with `v` asks whether the operator holds of their order. -/
theorem evaluate_binary {op : Operator} (hop : op.isComparison = true)
    (hfield : Record.field? record field = some k) (hv : v.isNull = false) :
    (binary op field v).evaluate record =
      ((k.compare v).map op.holdsOf).mapError fun types =>
        .typeMismatch field (.incomparable types) := by
  rw [evaluate_of_field? (binary op field v) hfield, testValue_binary hop field hv, compareWith]
  cases k.compare v <;> rfl

/-- Whatever the record and the operand `v` are, the six comparisons are coherent. Only the `field`
has to be known, and `v` must not be null. -/
theorem comparisons_areCoherent (hfield : Record.field? record field = some k)
    (hv : v.isNull = false) :
    AreCoherent field k v fun op => (binary op field v).evaluate record := by
  have hlacks : k.lacksOrder v = (k.isNull || k.isNaN || v.isNaN) := by
    rw [Value.lacksOrder, hv, Bool.bne_false]
  rcases Value.compare_cases k v with ⟨htypes, hcompare⟩ | ⟨htypes, hunordered, hcompare⟩ |
    ⟨htypes, hordered, o, hcompare⟩
  · refine .mismatch htypes fun op hop => ?_
    rw [evaluate_binary hop hfield hv, hcompare]
    rfl
  · rw [hlacks] at hunordered
    refine .unordered htypes hunordered fun op hop => ?_
    rw [evaluate_binary hop hfield hv, hcompare]
    cases op with
    | eq | ne | lt | le | gt | ge => rfl
    | _ => cases hop
  · rw [hlacks] at hordered
    have houtcome (op : Operator) (hop : op.isComparison = true) :
        (binary op field v).evaluate record = .ok (op.holdsOf (some o)) := by
      rw [evaluate_binary hop hfield hv, hcompare]
      rfl
    refine .ordered htypes hordered (o == .lt) (o == .eq) (o == .gt) ?_ (houtcome .lt rfl)
      (houtcome .eq rfl) (houtcome .gt rfl) (houtcome .le rfl) (houtcome .ge rfl)
      (houtcome .ne rfl)
    cases o <;> rfl

end

/-- All three cases arise. -/
theorem comparisons_areCoherent_scores :
    let record : List (String × Value) :=
      [("age", .int 7), ("score", .float .nan), ("name", .text "Ada")]
    (Record.field? record "age" = some (.int 7) ∧
        Record.field? record "score" = some (.float .nan) ∧
        Record.field? record "name" = some (.text "Ada") ∧ (Value.int 7).isNull = false) ∧
      AreCoherent "age" (.int 7) (.int 7) (fun op => (binary op "age" (.int 7)).evaluate record) ∧
      AreCoherent "score" (.float .nan) (.int 7)
        (fun op => (binary op "score" (.int 7)).evaluate record) ∧
      AreCoherent "name" (.text "Ada") (.int 7)
        (fun op => (binary op "name" (.int 7)).evaluate record) ∧
      (binary .le "age" (.int 7)).evaluate record = .ok true ∧
      (binary .le "score" (.int 7)).evaluate record = .ok false ∧
      (binary .le "name" (.int 7)).evaluate record =
        .error (.typeMismatch "name" (.incomparable ⟨.text, .int⟩)) :=
  ⟨⟨rfl, rfl, rfl, rfl⟩, comparisons_areCoherent rfl rfl, comparisons_areCoherent rfl rfl,
    comparisons_areCoherent rfl rfl, rfl, rfl, rfl⟩

end Criterion

/-! ## Formulas of "or" alone -/

/-- The first outcome other than `.ok false`, or `.ok false` if there is no other. -/
def firstNotFalse {ε : Type} : List (Except ε Bool) → Except ε Bool
  | [] => .ok false
  | .ok false :: outcomes => firstNotFalse outcomes
  | outcome :: _ => outcome

/-- The first outcome that is not false is in `xs`, or else in `ys`. -/
theorem firstNotFalse_append {ε : Type} (xs ys : List (Except ε Bool)) :
    firstNotFalse (xs ++ ys) =
      match firstNotFalse xs with
      | .ok false => firstNotFalse ys
      | outcome => outcome := by
  induction xs with
  | nil => rfl
  | cons x xs ih =>
    rcases x with e | _ | _
    case error => rfl
    case ok.false => exact ih
    case ok.true => rfl

theorem firstNotFalse_mapError {ε ε' : Type} (g : ε → ε') (xs : List (Except ε Bool)) :
    firstNotFalse (xs.map (Except.mapError g)) = (firstNotFalse xs).mapError g := by
  induction xs with
  | nil => rfl
  | cons x xs ih =>
    rcases x with e | _ | _
    case error => rfl
    case ok.false => exact ih
    case ok.true => rfl

namespace Formula

variable {ι ε : Type}

/-- The formula joins leaves by `or` and does nothing else. -/
def IsDisjunction : Formula ι → Prop
  | leaf _ => True
  | or a b => IsDisjunction a ∧ IsDisjunction b
  | _ => False

/-- The formula `f` or one leaf or another one, from left to right. -/
def orLeaves (f : Formula ι) (ls : List ι) : Formula ι :=
  ls.foldl (fun g l => g.or (leaf l)) f

theorem isDisjunction_orLeaves {f : Formula ι} (h : f.IsDisjunction) (ls : List ι) :
    (f.orLeaves ls).IsDisjunction := by
  induction ls generalizing f with
  | nil => exact h
  | cons l ls ih => exact ih ⟨h, trivial⟩

theorem leaves_orLeaves (f : Formula ι) (ls : List ι) :
    (f.orLeaves ls).leaves = f.leaves ++ ls := by
  induction ls generalizing f with
  | nil => exact (List.append_nil f.leaves).symm
  | cons l ls ih =>
    have hrest := ih (f.or (leaf l))
    rw [leaves, leaves, List.append_assoc] at hrest
    exact hrest

/-- However a disjunction `f` is bracketed, its leaves are tested one after the other until one is
not false. -/
theorem eval_of_isDisjunction (test : ι → Except ε Bool) {f : Formula ι} (h : f.IsDisjunction) :
    f.eval test = firstNotFalse (f.leaves.map test) := by
  induction f with
  | leaf l =>
    rw [eval, leaves, List.map_singleton]
    rcases test l with e | _ | _ <;> rfl
  | or a b iha ihb =>
    have happend := firstNotFalse_append (a.leaves.map test) (b.leaves.map test)
    rw [← iha h.1, ← ihb h.2] at happend
    rw [leaves, List.map_append]
    exact happend.symm
  | const b => exact h.elim
  | and a b => exact h.elim
  | not a => exact h.elim

end Formula

/-! ## Membership -/

namespace Criterion

/-- A test for equality is a comparison with null too: to be null is to be equal to null. -/
theorem testOperand_eq (actual v : Value) : testOperand .eq actual v = compareWith .eq actual v := by
  rw [testOperand]
  cases v with
  | null => cases actual <;> rfl
  | _ => rfl

/-- Membership among `vs` is the first equality with one of them that is not false. -/
theorem equalsAny_eq_firstNotFalse (actual : Value) (vs : List Value) :
    equalsAny actual vs = firstNotFalse (vs.map (testOperand .eq actual)) := by
  induction vs with
  | nil => rfl
  | cons v vs ih =>
    rw [equalsAny, List.map_cons, testOperand_eq, ih]
    rcases compareWith .eq actual v with e | _ | _ <;> rfl

variable {α : Type} [Record α]

/-- On a record, membership is the first of the criteria for equality that is not false. -/
theorem evaluate_among_cons (record : α) (field : String) (v : Value) (vs : List Value) :
    (among field (v :: vs)).evaluate record =
      firstNotFalse (((v :: vs).map (binary .eq field)).map (·.evaluate record)) := by
  cases hfield : Record.field? record field with
  | none =>
    have hunknown (c : Criterion) (hc : c.field = field) :
        c.evaluate record = .error (.unknownField field) := by
      rw [evaluate, hc, hfield]
    rw [List.map_cons, List.map_cons, hunknown _ rfl, hunknown _ rfl]
    rfl
  | some actual =>
    have hequal (w : Value) : (binary .eq field w).evaluate record =
        (testOperand .eq actual w).mapError (.typeMismatch field) :=
      evaluate_of_field? (binary .eq field w) hfield
    have hamong : (among field (v :: vs)).evaluate record =
        (equalsAny actual (v :: vs)).mapError (.typeMismatch field) :=
      evaluate_of_field? (among field (v :: vs)) hfield
    rw [hamong, equalsAny_eq_firstNotFalse, ← firstNotFalse_mapError, List.map_map, List.map_map]
    exact congrArg firstNotFalse (List.map_congr_left fun w _ => (hequal w).symm)

/-- Membership among the values `v :: vs` is being equal to the first, or to the second, and so on,
in every `record` and with whatever it comes to, be it a failure. How the chain `f` is bracketed
does not matter. -/
theorem among_isChainOfEqualities (record : α) (field : String) (v : Value) (vs : List Value) :
    let member : Filter := .leaf (.among field (v :: vs))
    let equal : Filter := .leaf (.binary .eq field v)
    member.evaluate record = Filter.evaluate (equal.orLeaves (vs.map (.binary .eq field))) record ∧
      ∀ f : Filter, f.IsDisjunction → f.leaves = (v :: vs).map (.binary .eq field) →
        member.evaluate record = f.evaluate record := by
  intro member equal
  have hchain (f : Filter) (hf : f.IsDisjunction)
      (hleaves : f.leaves = (v :: vs).map (.binary .eq field)) :
      member.evaluate record = f.evaluate record := by
    unfold Filter.evaluate
    rw [Formula.eval_of_isDisjunction _ hf, hleaves, ← evaluate_among_cons]
    rfl
  have hequal : equal.IsDisjunction := trivial
  refine ⟨hchain _ (Formula.isDisjunction_orLeaves hequal _) ?_, hchain⟩
  rw [Formula.leaves_orLeaves]
  rfl

/-- A null field is found behind a list, with which null is compared, and a number is not found
behind it. -/
theorem among_isChainOfEqualities_rightNested :
    let record : List (String × Value) := [("joined_at", .null), ("age", .int 7)]
    let member (field : String) : Filter :=
      .leaf (.among field [.int 8, .list [.null], .null, .int 7])
    let equal (field : String) (v : Value) : Filter := .leaf (.binary .eq field v)
    let chain (field : String) : Filter :=
      (equal field (.int 8)).or
        ((equal field (.list [.null])).or ((equal field .null).or (equal field (.int 7))))
    (∀ field, (chain field).IsDisjunction ∧
        (chain field).leaves =
          [Value.int 8, .list [.null], .null, .int 7].map (.binary .eq field)) ∧
      (∀ field, (member field).evaluate record = (chain field).evaluate record) ∧
      (member "joined_at").evaluate record = .ok true ∧
      (member "age").evaluate record =
        .error (.typeMismatch "age" (.incomparable ⟨.int, .list⟩)) := by
  intro record member equal chain
  have hchain (field : String) : (chain field).IsDisjunction ∧
      (chain field).leaves =
        [Value.int 8, .list [.null], .null, .int 7].map (.binary .eq field) :=
    ⟨⟨trivial, trivial, trivial, trivial⟩, rfl⟩
  refine ⟨hchain, fun field => ?_, rfl, rfl⟩
  exact (among_isChainOfEqualities record field _ _).2 _ (hchain field).1 (hchain field).2

end Criterion

end Quarry
