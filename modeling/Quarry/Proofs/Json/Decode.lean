import Quarry.Json.Decode
import Quarry.Proofs.Except
import Quarry.Proofs.Uuid

/-!
# Reading what was written

Each plain value is read from the JSON value that it is written as, and sorting the members of
objects leaves JSON values without objects as they are.
-/

namespace Quarry.Json

/-! ## Sorting -/

theorem sortedItems_map_string (ss : List String) :
    sortedItems (ss.map .string) = ss.map .string := by
  induction ss with
  | nil => rfl
  | cons s rest ih => exact congrArg (Json.string s :: ·) ih

theorem sorted_ofOption {α : Type} (f : α → Json) (a : Option α) :
    (ofOption f a).sorted = .ofOption (fun a => (f a).sorted) a := by
  cases a <;> rfl

theorem sorted_ofBinary64 (x : Binary64) : (ofBinary64 x).sorted = .ofBinary64 x := by
  unfold ofBinary64
  split <;> rfl

/-! ## Reading -/

theorem decodeMember_of_ok {α : Type} {members : List (String × Json)} {key : String} {j : Json}
    {decode : Json → Except DecodeError α} {a : α} (hj : member? key members = some j)
    (ha : decode j = .ok a) : decodeMember members key decode = .ok (some a) := by
  rw [decodeMember, hj]
  exact congrArg (Except.map some) ha

theorem decodeString_string (s : String) : decodeString (.string s) = .ok s := rfl

theorem decodeBool_bool (b : Bool) : decodeBool (.bool b) = .ok b := rfl

theorem decodeInt64_ofInt64 (n : Int64) : decodeInt64 (.ofInt64 n) = .ok n := by
  rw [ofInt64, decodeInt64, if_pos (Int64.toInt_lt n), Int64.ofInt_toInt]

/-- The numbers of 64 bits are exactly those that an unsigned integer is written as. -/
theorem decodeNat_eq_ok_iff {j : Json} {n : Nat} :
    decodeNat 64 j = .ok n ↔ ∃ u : UInt64, j = ofUInt64 u ∧ u.toNat = n := by
  constructor
  · intro h
    match j with
    | .number (.integer i low_le lt_high) =>
      rw [decodeNat] at h
      split at h
      · rename_i hrange
        cases h
        have hi : i.toNat < 2 ^ 64 := by omega
        have hsame : (UInt64.ofNat i.toNat).toNat = i.toNat := UInt64.toNat_ofNat_of_lt hi
        have heq : ((UInt64.ofNat i.toNat).toNat : Int) = i := by omega
        refine ⟨UInt64.ofNat i.toNat, ?_, hsame⟩
        simp only [ofUInt64, heq]
      · cases h
    | .number (.real _ _) | .null | .bool _ | .string _ | .array _ | .object _ => cases h
  · rintro ⟨u, rfl, rfl⟩
    have hrange : (0 : Int) ≤ u.toNat ∧ (u.toNat : Int) < 2 ^ 64 := by
      have := u.toNat_lt
      omega
    rw [ofUInt64, decodeNat, if_pos hrange, Int.toNat_natCast]

theorem decodeUInt64_ofUInt64 (n : UInt64) : decodeUInt64 (.ofUInt64 n) = .ok n := by
  rw [decodeUInt64, decodeNat_eq_ok_iff.mpr ⟨n, rfl, rfl⟩]
  exact congrArg Except.ok (UInt64.ofNat_toNat)

theorem decodeBinary64_ofBinary64 {x : Binary64} (h : x.isFinite = true) :
    decodeBinary64 (.ofBinary64 x) = .ok x := by
  rw [ofBinary64, dif_pos h]
  rfl

theorem decodeList_strings (ss : List String) :
    decodeList decodeString (.array (ss.map .string)) = .ok ss := by
  rw [decodeList]
  induction ss with
  | nil => rfl
  | cons s rest ih =>
    rw [List.map_cons, List.mapM_cons, ih]
    rfl

/-- An optional part is read if its value is no null and is read. -/
theorem decodeOption_ofOption {α : Type} {decode : Json → Except DecodeError α} {f : α → Json}
    {a : Option α} (hnull : ∀ x, (f x).isNull = false)
    (h : ∀ x, a = some x → decode (f x) = .ok x) :
    decodeOption decode (.ofOption f a) = .ok a := by
  cases a with
  | none => rfl
  | some x =>
    have hx := h x rfl
    have hsome := hnull x
    rw [ofOption]
    unfold decodeOption
    split
    · rename_i heq
      rw [heq] at hsome
      cases hsome
    · rw [hx]
      rfl

theorem decodeMember_eq_some_iff {α : Type} {members : List (String × Json)} {key : String}
    {decode : Json → Except DecodeError α} {a : α} :
    decodeMember members key decode = .ok (some a) ↔
      ∃ j, member? key members = some j ∧ decode j = .ok a := by
  constructor
  · intro h
    unfold decodeMember at h
    split at h
    · next j hj =>
      obtain ⟨b, hb, heq⟩ := map_eq_ok_iff.mp h
      cases heq
      exact ⟨j, hj, hb⟩
    · cases h
  · rintro ⟨j, hj, ha⟩
    exact decodeMember_of_ok hj ha

theorem requireField_eq_ok_iff {α : Type} {name : String} {found : Option α} {a : α} :
    requireField name found = .ok a ↔ found = some a := by
  cases found with
  | none => exact iff_of_false nofun nofun
  | some b =>
    rw [requireField, Option.some_inj]
    exact ⟨Except.ok.inj, congrArg Except.ok⟩

theorem decodeItem_eq_ok_iff {α : Type} {items : List Json} {i : Nat} {expected : String}
    {decode : Json → Except DecodeError α} {a : α} :
    decodeItem items i expected decode = .ok a ↔ ∃ j, items[i]? = some j ∧ decode j = .ok a := by
  rw [decodeItem]
  split
  · next j hj => simp [hj]
  · next hnone => simp [hnone]

theorem requireNoMore_eq_ok_iff {items : List Json} {count : Nat} {u : Unit} :
    requireNoMore items count = .ok u ↔ items.length ≤ count := by
  rw [requireNoMore]
  split
  · next h => exact iff_of_true rfl h
  · next h => exact iff_of_false nofun h

theorem decode_of_decodeOption {α : Type} {decode : Json → Except DecodeError α} {j : Json} {a : α}
    (h : decodeOption decode j = .ok (some a)) : decode j = .ok a := by
  unfold decodeOption at h
  split at h
  · cases h
  · obtain ⟨b, hb, heq⟩ := map_eq_ok_iff.mp h
    cases heq
    exact hb

theorem decodeUuid_render (u : Uuid) : decodeUuid (.string u.render) = .ok u := by
  rw [decodeUuid, Uuid.read_render]
  rfl

end Quarry.Json
