import Quarry.Proofs.Filter.Stored
import Quarry.Proofs.Record

/-!
# Two readings of JSON values

The fields of a document and the operands of a filter are read by two functions: the one goes by the
form of a JSON value, the other tries one type after the other. Both give the same value, and both
refuse just the values in which an object occurs (`Value.decode_eq`, `Value.ofJson?_eq_none_iff`).

An operand has one more layer around it, since it may be missing: there a null stands for no operand
and is not read as a value. So a field and an operand that are written alike have the same value
unless they are null (`Value.field_eq_operand_iff`).

What is read of a written value is written in the same way again. It is the only plain value that is
written so, and it is the value itself if that is plain (`Value.encoding_isStable`).
-/

namespace Quarry

/-- The value is an object, or a list in which an object occurs at some depth. -/
inductive Json.HoldsObject : Json → Prop where
  | object (members : List (String × Json)) : HoldsObject (.object members)
  | item {items : List Json} {j : Json} (mem : j ∈ items) (h : HoldsObject j) :
    HoldsObject (.array items)

namespace Value

/-! ## The two readings -/

mutual

/-- An operand is read by `decode` as a field is by `ofJson?`, or refused for want of a value. -/
theorem decode_eq (j : Json) :
    decode j =
      match ofJson? j with
      | some v => .ok v
      | none => .error .notAValue := by
  match j with
  | .null | .bool _ | .string _ | .object _ => rfl
  | .number n =>
    show (match decodePlain (.number n) with | some v => _ | none => _) = _
    rw [decodePlain_number]
    rfl
  | .array items =>
    rw [decode, decodeItems_eq items, ofJson?]
    cases ofJsonItems? items <;> rfl

theorem decodeItems_eq (js : List Json) :
    decodeItems js =
      match ofJsonItems? js with
      | some vs => .ok vs
      | none => .error .notAValue := by
  match js with
  | [] => rfl
  | j :: js =>
    rw [decodeItems, decode_eq j, decodeItems_eq js, ofJsonItems?]
    cases ofJson? j <;> cases ofJsonItems? js <;> rfl

end

mutual

theorem ofJson?_eq_none_iff (j : Json) : ofJson? j = none ↔ j.HoldsObject := by
  match j with
  | .null | .bool _ | .number _ | .string _ => exact iff_of_false nofun nofun
  | .object members => exact iff_of_true rfl (.object members)
  | .array items =>
    rw [ofJson?, Option.map_eq_none_iff, ofJsonItems?_eq_none_iff items]
    constructor
    · rintro ⟨j, hmem, hj⟩
      exact .item hmem hj
    · rintro (_ | ⟨hmem, hj⟩)
      exact ⟨_, hmem, hj⟩

theorem ofJsonItems?_eq_none_iff (js : List Json) :
    ofJsonItems? js = none ↔ ∃ j ∈ js, j.HoldsObject := by
  match js with
  | [] => exact iff_of_false nofun nofun
  | j :: js =>
    simp only [List.mem_cons, exists_eq_or_imp]
    rw [← ofJson?_eq_none_iff j, ← ofJsonItems?_eq_none_iff js, ofJsonItems?]
    cases ofJson? j <;> cases ofJsonItems? js <;> simp

end

theorem ofJson?_eq_some_iff {j : Json} {v : Value} : ofJson? j = some v ↔ decode j = .ok v := by
  rw [decode_eq]
  cases ofJson? j <;> simp

end Value

/-! ## Fields and operands -/

/-- The part of a document to which a path through nested objects leads. -/
def Json.partAt? : List String → Json → Option Json
  | [], node => some node
  | key :: path, .object members =>
    match member? key members with
    | some node => partAt? path node
    | none => none
  | _ :: _, _ => none

/-- The value at a path is read from the part to which the path leads. -/
theorem Json.valueAt?_of_partAt? {path : List String} {d j : Json} (h : d.partAt? path = some j) :
    d.valueAt? path = Value.ofJson? j := by
  induction path generalizing d with
  | nil =>
    cases h
    rfl
  | cons key path ih =>
    cases d with
    | object members =>
      rw [partAt?] at h
      cases hnode : member? key members with
      | none =>
        rw [hnode] at h
        cases h
      | some node =>
        rw [hnode] at h
        rw [valueAt?_of_member? hnode]
        exact ih h
    | _ => cases h

namespace Criterion

/-- The stored form of a criterion whose operand is written as `operand`. -/
def storedWith (field : String) (op : Operator) (operand : Json) : Json :=
  .object [("field", .string field), ("op", op.encode), ("value", operand)]

variable {j k : Json} {c : Criterion}

/-- The operand of a criterion `c` that was read is what stands in its place, if that is not null.
-/
theorem decodeOption_of_decode (h : decode k = .ok c) (hj : storedOperand? k = some j) :
    Json.decodeOption Value.decode j = .ok c.operand := by
  have hread := operand_of_decode h
  rwa [hj] at hread

theorem exists_decode_storedWith_iff (field : String) (op : Operator) :
    (∃ c, decode (storedWith field op j) = .ok c) ↔
      ∃ operand, Json.decodeOption Value.decode j = .ok operand := by
  constructor
  · rintro ⟨c, hc⟩
    exact ⟨c.operand, decodeOption_of_decode hc rfl⟩
  · rintro ⟨operand, hoperand⟩
    refine ⟨⟨field, op, operand⟩, ?_⟩
    show ofMembers _ = _
    rw [ofMembers, Json.decodeMember_of_ok rfl (Json.decodeString_string _),
      Json.decodeMember_of_ok rfl op.decode_encode, Json.decodeMember_of_ok rfl hoperand]
    rfl

end Criterion

namespace Value

theorem decodeOption_of_ne_null {j : Json} (h : j ≠ .null) :
    Json.decodeOption decode j = (decode j).map some := by
  cases j with
  | null => exact absurd rfl h
  | _ => rfl

/-- Both readings of a JSON value `j` give the same value, and both refuse just the values in which
an object occurs. So do the stored criteria in which it stands for the operand. The field of a
document and the operand of a criterion `c` that are written as `j` are the same just if `j` is not
null: then the field is null, and the criterion has no operand. -/
theorem field_eq_operand_iff (j : Json) :
    (∀ v, ofJson? j = some v ↔ decode j = .ok v) ∧
      (ofJson? j = none ↔ j.HoldsObject) ∧
      ((∃ e, decode j = .error e) ↔ j.HoldsObject) ∧
      (∀ field op, (∃ c, Criterion.decode (Criterion.storedWith field op j) = .ok c) ↔
        ¬j.HoldsObject) ∧
      ∀ (document : Json) (name : String), document.partAt? (Text.split '.' name) = some j →
        Record.field? document name = ofJson? j ∧
          ∀ (k : Json) (c : Criterion), Criterion.storedOperand? k = some j →
            Criterion.decode k = .ok c →
              (c.operand = Record.field? document name ↔ j ≠ .null) ∧
                (j = .null → c.operand = none ∧ Record.field? document name = some .null) := by
  have hrefused : (∃ e, decode j = .error e) ↔ j.HoldsObject := by
    rw [← ofJson?_eq_none_iff, decode_eq]
    cases ofJson? j <;> simp
  refine ⟨fun v => ofJson?_eq_some_iff, ofJson?_eq_none_iff j, hrefused, ?_, ?_⟩
  · intro field op
    rw [Criterion.exists_decode_storedWith_iff, ← hrefused]
    by_cases hnull : j = .null
    · rw [hnull]
      exact iff_of_true ⟨none, rfl⟩ (fun ⟨e, he⟩ => nomatch he)
    · rw [decodeOption_of_ne_null hnull]
      cases decode j <;> simp [Except.map]
  · intro document name hpart
    have hfield : Record.field? document name = ofJson? j := Json.valueAt?_of_partAt? hpart
    refine ⟨hfield, fun k c hk hc => ?_⟩
    have hoperand := Criterion.decodeOption_of_decode hc hk
    rw [hfield]
    by_cases hnull : j = .null
    · subst hnull
      have hnone : c.operand = none := (Except.ok.inj hoperand).symm
      rw [hnone]
      exact ⟨iff_of_false nofun (fun h => h rfl), fun _ => ⟨rfl, rfl⟩⟩
    · rw [decodeOption_of_ne_null hnull] at hoperand
      obtain ⟨v, hv, hoperand⟩ := map_eq_ok_iff.mp hoperand
      rw [← hoperand, ofJson?_eq_some_iff.mpr hv]
      exact ⟨iff_of_true rfl hnull, fun h => absurd h hnull⟩

/-- Numbers that are no 64-bit integers with a sign, a null and a list within a list. -/
theorem field_eq_operand_iff_nested :
    let n : JsonNumber := .integer (2 ^ 63) (by decide) (by decide)
    let j : Json :=
      .array [.number n, .null, .array [.ofBinary64 ⟨0x8000000000000000⟩, .string "30062"]]
    let document : Json := .object [("address", .object [("zip_codes", j)])]
    let k : Json := .array [.string "size", .string "in", j]
    let v : Value :=
      .list [.float n.toBinary64, .null, .list [.float ⟨0x8000000000000000⟩, .text "30062"]]
    (document.partAt? (Text.split '.' "address.zip_codes") = some j ∧
        Criterion.storedOperand? k = some j ∧
        Criterion.decode k = .ok (.binary .isIn "size" v)) ∧
      Record.field? document "address.zip_codes" = some v ∧ decode j = .ok v ∧ ¬j.HoldsObject := by
  intro n j document k v
  have hpart : document.partAt? (Text.split '.' "address.zip_codes") = some j := rfl
  have hread : Criterion.decode k = .ok (.binary .isIn "size" v) := rfl
  obtain ⟨hsame, hnone, -, -, hfields⟩ := field_eq_operand_iff j
  obtain ⟨hfield, hoperands⟩ := hfields document "address.zip_codes" hpart
  have hoperand : some v = Record.field? document "address.zip_codes" :=
    (hoperands k (.binary .isIn "size" v) rfl hread).1.mpr nofun
  have hv : ofJson? j = some v := hfield.symm.trans hoperand.symm
  refine ⟨⟨hpart, rfl, hread⟩, hoperand.symm, (hsame v).mp hv, fun hobject => ?_⟩
  cases hv.symm.trans (hnone.mpr hobject)

/-- A field and an operand that are both written as null. The field is null, but the criterion does
not ask for that: it lacks its operand and fails. -/
theorem exists_field_ne_operand :
    let document : Json := .object [("zip_code", .null)]
    let k : Json := Criterion.storedWith "zip_code" .eq .null
    let c : Criterion := .unary .eq "zip_code"
    (document.partAt? (Text.split '.' "zip_code") = some .null ∧
        Criterion.storedOperand? k = some .null ∧ Criterion.decode k = .ok c) ∧
      Record.field? document "zip_code" = some .null ∧ c.operand ≠ some .null ∧
      c.evaluate document = .error (.typeMismatch "zip_code" (.operandMissing .eq)) ∧
      (Criterion.binary .eq "zip_code" .null).evaluate document = .ok true :=
  ⟨⟨rfl, rfl, rfl⟩, rfl, nofun, rfl, rfl⟩

/-! ## Written values -/

mutual

/-- A value `v` is written as it is read. -/
theorem encode_asRead (v : Value) : v.asRead.encode = v.encode := by
  match v with
  | .null | .bool _ | .int _ | .uuid _ | .timestamp _ | .text _ => rfl
  | .float x =>
    rw [asRead, encode]
    by_cases h : x.isFinite = true
    · rw [if_pos h]
      rfl
    · rw [if_neg h, Json.ofBinary64, dif_neg h]
      rfl
  | .list items => rw [asRead, encode, encode, encodeItems_asReadItems items]

theorem encodeItems_asReadItems (vs : List Value) :
    encodeItems (asReadItems vs) = encodeItems vs := by
  match vs with
  | [] => rfl
  | v :: vs =>
    rw [asReadItems, encodeItems, encodeItems, encode_asRead v, encodeItems_asReadItems vs]

end

mutual

theorem isPlain_asRead (v : Value) : v.asRead.IsPlain := by
  match v with
  | .null => exact .null
  | .bool b => exact .bool b
  | .int n => exact .int n
  | .float x =>
    rw [asRead]
    by_cases h : x.isFinite = true
    · rw [if_pos h]
      exact .float x h
    · rw [if_neg h]
      exact .null
  | .uuid u => exact .text _
  | .timestamp t => exact .text _
  | .text s => exact .text s
  | .list items => exact .list _ (isPlain_of_mem_asReadItems items)

theorem isPlain_of_mem_asReadItems (vs : List Value) : ∀ v ∈ asReadItems vs, v.IsPlain := by
  match vs with
  | [] => exact nofun
  | v :: vs =>
    exact List.forall_mem_cons.mpr ⟨isPlain_asRead v, isPlain_of_mem_asReadItems vs⟩

end

/-- A value `w` is read from what is written of any value `v`, as an operand and as a field alike.
It is the only plain value that is written so, and it is `v` if and only if `v` is plain. -/
theorem encoding_isStable (v : Value) :
    ∃ w, decode v.encode = .ok w ∧ ofJson? v.encode = some w ∧ w.encode = v.encode ∧
      w.IsPlain ∧ (∀ u : Value, u.IsPlain → u.encode = v.encode → u = w) ∧
      (w = v ↔ v.IsPlain) := by
  have hread := decode_encode v
  refine ⟨v.asRead, hread, ofJson?_eq_some_iff.mpr hread, encode_asRead v, isPlain_asRead v, ?_, ?_⟩
  · intro u hu hencode
    have hsame := decode_encode u
    rw [hencode, hread, hu.asRead] at hsame
    exact (Except.ok.inj hsame).symm
  · constructor
    · intro h
      rw [← h]
      exact isPlain_asRead v
    · exact IsPlain.asRead

/-- What becomes of an identifier, a NaN, a negative zero and a number without a fraction. -/
example (u : Uuid) :
    let minusZero : Value := .float ⟨0x8000000000000000⟩
    decode (encode (.list [.uuid u, .float .nan, minusZero, .float (.ofInt 2), .int 2])) =
      .ok (.list [.text u.render, .null, minusZero, .float (.ofInt 2), .int 2]) :=
  rfl

end Value

end Quarry
