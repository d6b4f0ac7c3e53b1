import Quarry.Proofs.Json.Members
import Quarry.Proofs.Specification
import Quarry.Proofs.Value.Json

/-!
# Filters and their stored form

A filter is read from its stored form as it was, but for the operands (`Filter.decode_encode`). An
operand that is null is written as null, and null stands for an operand that is missing. So a test
against null, which is well formed for equality and inequality, comes back without its operand, and
what is read is refused as a specification. A well-formed filter with plain operands and no test
against null comes back as it was (`Filter.read_of_stored`).
-/

namespace Quarry

namespace Formula

variable {ι κ ε : Type}

theorem check_map (g : ι → κ) (check' : κ → Except ε Unit) (f : Formula ι) :
    (f.map g).check check' = f.check fun l => check' (g l) := by
  induction f with
  | const b => rfl
  | leaf l => rfl
  | and a b iha ihb => rw [map, check, check, iha, ihb]
  | or a b iha ihb => rw [map, check, check, iha, ihb]
  | not a ih => rw [map, check, check, ih]

/-- Every leaf of a formula `f` that is well formed is so. -/
theorem check_leaf {check' : ι → Except ε Unit} {f : Formula ι} (h : f.check check' = .ok ())
    {l : ι} (hl : l ∈ f.leaves) : check' l = .ok () :=
  (settledByAll_check (fun l => .self (check' l)) f).exists_ok_iff.mp ⟨(), h⟩ l hl

/-- If the leaves with a fault are those that `p` holds of, the fault of the leftmost one is
reported. -/
theorem check_eq_find? {check' : ι → Except ε Unit} {f : Formula ι} (p : ι → Bool) (fault : ι → ε)
    (h : ∀ l ∈ f.leaves, check' l = if p l then .error (fault l) else .ok ()) :
    f.check check' =
      match f.leaves.find? p with
      | none => .ok ()
      | some l => .error (fault l) := by
  induction f with
  | const b => rfl
  | leaf l =>
    rw [check, h l (List.mem_singleton.mpr rfl), leaves, List.find?_singleton]
    cases p l <;> rfl
  | and a b iha ihb | or a b iha ihb =>
    rw [check, iha fun l hl => h l (List.mem_append_left _ hl),
      ihb fun l hl => h l (List.mem_append_right _ hl), leaves, List.find?_append]
    cases a.leaves.find? p <;> rfl
  | not a ih => rw [check, ih h, leaves]

end Formula

/-! ## Criteria -/

theorem Operator.decode_encode (op : Operator) : decode op.encode = .ok op := by
  cases op <;> rfl

namespace Criterion

/-- The criterion `c` without an operand that is null. -/
def withoutNull (c : Criterion) : Criterion :=
  { c with operand := c.operand.filter fun v => !v.isNull }

/-- The criterion that is read from the stored form of `c`. -/
def asRead (c : Criterion) : Criterion :=
  withoutNull { c with operand := c.operand.map Value.asRead }

/-- Whether the operand of `c` is null. -/
def isAgainstNull (c : Criterion) : Bool :=
  c.operand.any Value.isNull

/-- Every criterion can be read from its stored form, and is read as `c.asRead`. -/
theorem decode_encode (c : Criterion) : decode c.encode.sorted = .ok c.asRead := by
  obtain ⟨field, op, operand⟩ := c
  rw [encode, Json.sorted]
  generalize hwritten : ("field", Json.string field) :: _ = written
  have hmember (key : String) : Json.member? key (Json.sortMembers (Json.sortedMembers written)) =
      (Json.member? key written).map Json.sorted := by
    refine Json.member?_kept key ?_
    have hkeys : (["field", "op", "value"] : List String).Nodup := by decide
    rw [← hwritten]
    cases operand with
    | none => exact hkeys.sublist (List.sublist_append_left [_, _] [_])
    | some v => exact hkeys
  generalize Json.sortMembers (Json.sortedMembers written) = members at hmember ⊢
  have hfield : Json.member? "field" members = some (.string field) := by
    rw [hmember, ← hwritten]
    rfl
  have hop : Json.member? "op" members = some op.encode := by
    rw [hmember, ← hwritten]
    rfl
  have hvalue := hmember "value"
  rw [← hwritten] at hvalue
  show ofMembers members = _
  rw [ofMembers, Json.decodeMember_of_ok hfield (Json.decodeString_string _),
    Json.decodeMember_of_ok hop op.decode_encode]
  cases operand with
  | none =>
    rw [Json.decodeMember, hvalue]
    rfl
  | some v =>
    have hv : Json.member? "value" members = some v.encode :=
      hvalue.trans (congrArg some v.sorted_encode)
    rw [Json.decodeMember_of_ok hv v.decodeOption_encode]
    rfl

/-- The operand of `c`, if there is one, is plain. -/
def HasPlainOperand (c : Criterion) : Prop :=
  ∀ v, c.operand = some v → v.IsPlain

theorem asRead_of_hasPlainOperand {c : Criterion} (h : c.HasPlainOperand) :
    c.asRead = c.withoutNull := by
  obtain ⟨field, op, operand⟩ := c
  cases operand with
  | none => rfl
  | some v =>
    have hv : v.asRead = v := (h v rfl).asRead
    rw [asRead, Option.map_some, hv]

theorem withoutNull_of_not_isAgainstNull {c : Criterion} (h : c.isAgainstNull = false) :
    c.withoutNull = c := by
  obtain ⟨field, op, operand⟩ := c
  cases operand with
  | none => rfl
  | some v =>
    have hv : v.isNull = false := h
    rw [withoutNull, Option.filter_some, hv]
    rfl

/-- A test against null that is well formed lacks its operand when the null is left out. -/
theorem validate_withoutNull {c : Criterion} (hvalid : c.validate = .ok ()) :
    c.withoutNull.validate =
      if c.isAgainstNull then .error (.operandMissing c.op c.field) else .ok () := by
  cases hnull : c.isAgainstNull with
  | false => rw [withoutNull_of_not_isAgainstNull hnull, hvalid, if_neg Bool.false_ne_true]
  | true =>
    obtain ⟨field, op, operand⟩ := c
    cases operand with
    | none => cases hnull
    | some v =>
      obtain rfl : v = .null := by
        cases v with
        | null => rfl
        | _ => cases hnull
      unfold validate at hvalid
      split at hvalid
      · cases hvalid
      rename_i hblank
      dsimp only at hvalid
      split at hvalid
      · cases hvalid
      rename_i hunary
      show validate ⟨field, op, none⟩ = _
      rw [validate, if_neg hblank, if_neg hunary, if_pos rfl]

end Criterion

/-! ## Filters -/

namespace Filter

/-- Every filter can be read from its stored form, and is read criterion by criterion. -/
theorem decode_encode (f : Filter) : decode f.encode.sorted = .ok (f.map Criterion.asRead) := by
  induction f with
  | const b => rfl
  | leaf c =>
    show (Criterion.decode c.encode.sorted).map Formula.leaf = _
    rw [c.decode_encode]
    rfl
  | and a b iha ihb | or a b iha ihb =>
    show (decodePair _ (.array [(encode a).sorted, (encode b).sorted])).map _ = _
    rw [decodePair, iha, ihb]
    rfl
  | not a ih =>
    show (decode (encode a).sorted).map Formula.not = _
    rw [ih]
    rfl

variable {α : Type}

/-- The specification of a stored filter is the one of the filter that is read. -/
theorem ofJson_encode (f : Filter) :
    (Specification.ofJson f.encode.sorted : Except ArgumentError (Specification α)) =
      Specification.ofFilter (f.map Criterion.asRead) := by
  have hobject : f.encode.sorted.isNull = false := by
    cases f <;> rfl
  rw [Specification.ofJson, hobject, if_neg Bool.false_ne_true, decode_encode]

/-- Without its nulls, a well-formed filter has the fault of its first test against null. -/
theorem validate_map_withoutNull {f : Filter} (hvalid : f.validate = .ok ()) :
    validate (f.map Criterion.withoutNull) =
      match f.leaves.find? Criterion.isAgainstNull with
      | none => .ok ()
      | some c => .error (.operandMissing c.op c.field) := by
  rw [validate, Formula.check_map]
  have hcheck := Formula.check_eq_find? Criterion.isAgainstNull
    (fun c => ArgumentError.operandMissing c.op c.field) fun c hc =>
      Criterion.validate_withoutNull (Formula.check_leaf hvalid hc)
  cases hfind : f.leaves.find? Criterion.isAgainstNull with
  | none => rwa [hfind] at hcheck
  | some c => rwa [hfind] at hcheck

theorem map_withoutNull_of_find?_eq_none {f : Filter}
    (h : f.leaves.find? Criterion.isAgainstNull = none) : f.map Criterion.withoutNull = f := by
  refine (Formula.map_congr fun c hc => ?_).trans f.map_id
  have hnot := List.find?_eq_none.mp h c hc
  exact Criterion.withoutNull_of_not_isAgainstNull (Bool.eq_false_iff.mpr hnot)

/-- What is read of the stored form of a filter `f` that is well formed and has plain operands: `f`
itself if it has no test against null, and otherwise a filter whose first such test lacks its
operand, so that no specification can be made of it. -/
theorem read_of_stored {f : Filter} (hvalid : f.validate = .ok ())
    (hplain : ∀ c ∈ f.leaves, c.HasPlainOperand) :
    decode f.encode.sorted = .ok (f.map Criterion.withoutNull) ∧
      match f.leaves.find? Criterion.isAgainstNull with
      | none =>
        f.map Criterion.withoutNull = f ∧
          (Specification.ofJson f.encode.sorted : Except ArgumentError (Specification α)).map
            Specification.toFilter? = .ok (some f)
      | some c =>
        f.map Criterion.withoutNull ≠ f ∧
          validate (f.map Criterion.withoutNull) = .error (.operandMissing c.op c.field) ∧
          (Specification.ofJson f.encode.sorted : Except ArgumentError (Specification α)) =
            .error (.operandMissing c.op c.field) := by
  have hread : f.map Criterion.asRead = f.map Criterion.withoutNull :=
    Formula.map_congr fun c hc => Criterion.asRead_of_hasPlainOperand (hplain c hc)
  have hchecked := validate_map_withoutNull hvalid
  refine ⟨by rw [decode_encode, hread], ?_⟩
  rw [ofJson_encode, hread]
  cases hfind : f.leaves.find? Criterion.isAgainstNull with
  | none =>
    have hsame := map_withoutNull_of_find?_eq_none hfind
    rw [hsame, Specification.map_toFilter?_ofFilter, hvalid]
    exact ⟨rfl, rfl⟩
  | some c =>
    rw [hfind] at hchecked
    refine ⟨fun hsame => ?_, hchecked, Specification.ofFilter_of_not_validate hchecked⟩
    rw [hsame, hvalid] at hchecked
    cases hchecked

theorem read_of_stored_against_null :
    let among : Filter := .leaf (.among "zip_code" [.text "30062", .null])
    let f : Filter := .and among (.not (.leaf (.binary .eq "period" .null)))
    (f.validate = .ok () ∧ ∀ c ∈ f.leaves, c.HasPlainOperand) ∧
      decode f.encode.sorted = .ok (.and among (.not (.leaf (.unary .eq "period")))) ∧
      (Specification.ofJson f.encode.sorted : Except ArgumentError (Specification Json)) =
        .error (.operandMissing .eq "period") := by
  intro among f
  have hvalid : f.validate = .ok () := rfl
  have hplain : ∀ c ∈ f.leaves, c.HasPlainOperand := by
    intro c hc v hv
    rcases List.mem_cons.mp hc with rfl | hc
    · cases hv
      refine .list _ fun w hw => ?_
      rcases List.mem_cons.mp hw with rfl | hw
      · exact .text _
      · rw [List.mem_singleton.mp hw]
        exact .null
    · rw [List.mem_singleton.mp hc] at hv
      cases hv
      exact .null
  obtain ⟨hread, -, -, hspec⟩ := read_of_stored (α := Json) hvalid hplain
  exact ⟨⟨hvalid, hplain⟩, hread, hspec⟩

/-- A well-formed filter with a plain operand, of which another filter is read. -/
theorem exists_read_of_stored_ne :
    let f : Filter := .leaf (.binary .eq "zip_code" .null)
    (f.validate = .ok () ∧ ∀ c ∈ f.leaves, c.HasPlainOperand) ∧ decode f.encode.sorted ≠ .ok f ∧
      ∀ s : Specification Json, Specification.ofJson f.encode.sorted ≠ .ok s := by
  intro f
  refine ⟨⟨rfl, fun c hc v hv => ?_⟩, fun h => ?_, fun s h => ?_⟩
  · rw [List.mem_singleton.mp hc] at hv
    cases hv
    exact .null
  · have hread : Except.ok (.leaf (.unary .eq "zip_code")) =
        (Except.ok (.leaf (.binary .eq "zip_code" .null)) : Except DecodeError Filter) :=
      (decode_encode f).symm.trans h
    cases hread
  · rw [ofJson_encode] at h
    cases h

end Filter

end Quarry
