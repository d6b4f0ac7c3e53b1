import Quarry.Proofs.Json.Decode
import Quarry.Value.Json

/-!
# Values and their JSON

Whatever value is written, a value is read from it: identifiers and moments come back as their
texts, numbers that are not finite as null, and everything else as it was (`Value.decode_encode`).
So plain values, in which none of these occur at any depth, come back as they were.
-/

namespace Quarry.Value

mutual

/-- The value that is read from the JSON of a value: identifiers and moments become texts, and
floats that are not finite become null. -/
def asRead : Value → Value
  | .null => .null
  | .bool b => .bool b
  | .int n => .int n
  | .float x => if x.isFinite then .float x else .null
  | .uuid u => .text u.render
  | .timestamp t => .text t.renderZulu
  | .text s => .text s
  | .list items => .list (asReadItems items)

/-- The values that are read from the JSON of a list. -/
def asReadItems : List Value → List Value
  | [] => []
  | v :: vs => asRead v :: asReadItems vs

end

/-- The value holds no identifier, no moment and no number that is not finite. -/
inductive IsPlain : Value → Prop where
  | null : IsPlain .null
  | bool (b : Bool) : IsPlain (.bool b)
  | int (n : Int64) : IsPlain (.int n)
  | float (x : Binary64) (finite : x.isFinite = true) : IsPlain (.float x)
  | text (s : String) : IsPlain (.text s)
  | list (items : List Value) (all : ∀ v ∈ items, IsPlain v) : IsPlain (.list items)

/-! ## Reading -/

/-- An integer `n` is taken for one, and not for the number that is nearest to it. -/
theorem decodePlain_ofInt64 (n : Int64) : decodePlain (.ofInt64 n) = some (.int n) := by
  unfold decodePlain
  rw [Json.decodeInt64_ofInt64]
  rfl

theorem decodePlain_ofBinary64 {x : Binary64} (h : x.isFinite = true) :
    decodePlain (.ofBinary64 x) = some (.float x) := by
  rw [Json.ofBinary64, dif_pos h]
  rfl

mutual

/-- Every value can be read from its JSON, and is read as `v.asRead`. -/
theorem decode_encode (v : Value) : decode v.encode = .ok v.asRead := by
  match v with
  | .null => rfl
  | .bool b => rfl
  | .int n =>
    show (match decodePlain (.ofInt64 n) with | some v => _ | none => _) = _
    rw [decodePlain_ofInt64]
    rfl
  | .float x =>
    rw [encode, asRead]
    by_cases h : x.isFinite = true
    · have hplain := decodePlain_ofBinary64 h
      rw [Json.ofBinary64, dif_pos h] at hplain ⊢
      rw [decode, hplain, if_pos h]
      intro items hitems
      cases hitems
    · rw [Json.ofBinary64, dif_neg h, if_neg h]
      rfl
  | .uuid u => rfl
  | .timestamp t => rfl
  | .text s => rfl
  | .list items =>
    rw [encode, decode, decodeItems_encodeItems items]
    rfl

theorem decodeItems_encodeItems (vs : List Value) :
    decodeItems (encodeItems vs) = .ok (asReadItems vs) := by
  match vs with
  | [] => rfl
  | v :: vs =>
    rw [encodeItems, decodeItems, decode_encode v, decodeItems_encodeItems vs]
    rfl

end

mutual

theorem sorted_encode (v : Value) : v.encode.sorted = v.encode := by
  match v with
  | .null => rfl
  | .bool b => rfl
  | .int n => rfl
  | .float x => exact Json.sorted_ofBinary64 x
  | .uuid u => rfl
  | .timestamp t => rfl
  | .text s => rfl
  | .list items => rw [encode, Json.sorted, sortedItems_encodeItems items]

theorem sortedItems_encodeItems (vs : List Value) :
    Json.sortedItems (encodeItems vs) = encodeItems vs := by
  match vs with
  | [] => rfl
  | v :: vs => rw [encodeItems, Json.sortedItems, sorted_encode v, sortedItems_encodeItems vs]

end

/-! ## Plain values -/

theorem asReadItems_of_forall {vs : List Value} (h : ∀ v ∈ vs, v.asRead = v) :
    asReadItems vs = vs := by
  induction vs with
  | nil => rfl
  | cons v vs ih =>
    rw [List.forall_mem_cons] at h
    rw [asReadItems, h.1, ih h.2]

theorem IsPlain.asRead {v : Value} (h : v.IsPlain) : v.asRead = v := by
  induction h with
  | null => rfl
  | bool b => rfl
  | int n => rfl
  | float x finite => rw [Value.asRead, if_pos finite]
  | text s => rfl
  | list items _ ih => rw [Value.asRead, asReadItems_of_forall ih]

theorem isNull_encode (v : Value) : v.encode.isNull = v.asRead.isNull := by
  cases v with
  | float x =>
    rw [encode, asRead, Json.ofBinary64]
    split <;> rfl
  | _ => rfl

theorem decodeOption_encode (v : Value) :
    Json.decodeOption decode v.encode = .ok ((some v.asRead).filter fun w => !w.isNull) := by
  have hnull := isNull_encode v
  unfold Json.decodeOption
  split
  · rename_i hencode
    rw [hencode] at hnull
    rw [Option.filter_some, ← hnull]
    rfl
  · rename_i hencode
    have hsome : v.encode.isNull = false := by
      cases h : v.encode with
      | null => exact absurd h hencode
      | _ => rfl
    rw [decode_encode, Option.filter_some, ← hnull, hsome]
    rfl

end Quarry.Value
