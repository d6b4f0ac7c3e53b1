import Quarry.Proofs.Binary64.Rounding
import Quarry.Proofs.Filter.Json

/-!
# Filters that were read

There are more spellings of a filter than the one in which it is written: a criterion may be an array,
have members that mean nothing, or say with a null that it has no operand, and an integer may be too
large to be read as one. But once a filter has been read, nothing of its spelling is left. What is
written of it is read as the same filter and is written in the same way again
(`Filter.reading_isStable`).

The reason is that reading gives no value that writing changes: no identifier and no moment, no number
that is not finite, and no operand that is null (`Criterion.asRead_of_decode`). The spellings of a
filter are the values of which it is read (`Filter.decode_eq_ok_iff`), and what holds of its criteria
is carried through the formula by induction on the spelling.
-/

namespace Quarry

theorem JsonNumber.isFinite_toBinary64 (n : JsonNumber) : n.toBinary64.isFinite = true := by
  cases n with
  | integer n low_le lt_high =>
    have hsize : n.natAbs < 2 ^ 64 := by omega
    exact (Binary64.isNearestEven_ofInt hsize).finite
  | real x finite => exact finite

/-! ## Values -/

namespace Value

theorem decodePlain_number (n : JsonNumber) :
    decodePlain (.number n) = some (ofJsonNumber n) := by
  unfold decodePlain
  cases n with
  | integer i low_le lt_high =>
    rw [Json.decodeInt64, ofJsonNumber]
    by_cases h : i < 2 ^ 63
    · rw [if_pos h, if_pos h]
      rfl
    · rw [if_neg h, if_neg h]
      rfl
  | real x finite => rfl

/-- A value that was read from plain JSON is read again as it is, and only null is read as null. -/
theorem asRead_of_decodePlain {j : Json} {v : Value} (h : decodePlain j = some v) :
    v.asRead = v ∧ v.isNull = j.isNull := by
  cases j with
  | null | bool | string =>
    cases h
    exact ⟨rfl, rfl⟩
  | array | object => cases h
  | number n =>
    rw [decodePlain_number] at h
    cases h
    cases n with
    | integer i low_le lt_high =>
      rw [ofJsonNumber]
      split
      · exact ⟨rfl, rfl⟩
      · rw [asRead, if_pos (JsonNumber.isFinite_toBinary64 _)]
        exact ⟨rfl, rfl⟩
    | real x finite =>
      rw [ofJsonNumber, asRead, if_pos finite]
      exact ⟨rfl, rfl⟩

theorem decodePlain_of_decode {j : Json} {v : Value} (h : decode j = .ok v)
    (hj : ∀ items, j = .array items → False) : decodePlain j = some v := by
  rw [decode.eq_2 j hj] at h
  split at h
  · rename_i w hw
    cases h
    exact hw
  · cases h

mutual

/-- A value `v` that was read is read again as it is. -/
theorem asRead_of_decode {j : Json} {v : Value} (h : decode j = .ok v) : v.asRead = v := by
  match j with
  | .array items =>
    rw [decode] at h
    split at h
    · rename_i vs hvs
      cases h
      rw [asRead, asReadItems_of_decodeItems hvs]
    · cases h
  | .null | .bool _ | .number _ | .string _ | .object _ =>
    exact (asRead_of_decodePlain (decodePlain_of_decode h nofun)).1

theorem asReadItems_of_decodeItems {js : List Json} {vs : List Value}
    (h : decodeItems js = .ok vs) : asReadItems vs = vs := by
  match js with
  | [] =>
    cases h
    rfl
  | j :: js =>
    rw [decodeItems] at h
    split at h
    · cases h
    · rename_i v hv
      obtain ⟨rest, hrest, rfl⟩ := map_eq_ok_iff.mp h
      rw [asReadItems, asRead_of_decode hv, asReadItems_of_decodeItems hrest]

end

theorem isNull_of_decode {j : Json} {v : Value} (h : decode j = .ok v) : v.isNull = j.isNull := by
  cases j with
  | array items =>
    rw [decode] at h
    split at h
    · cases h
      rfl
    · cases h
  | _ => exact (asRead_of_decodePlain (decodePlain_of_decode h nofun)).2

/-- An optional operand is read again as it is, and it is not null. -/
theorem filter_of_decodeOption {j : Json} {operand : Option Value}
    (h : Json.decodeOption decode j = .ok operand) :
    (operand.map asRead).filter (fun v => !v.isNull) = operand := by
  unfold Json.decodeOption at h
  split at h
  · cases h
    rfl
  · rename_i hj
    obtain ⟨v, hv, rfl⟩ := map_eq_ok_iff.mp h
    have hnull : v.isNull = false := by
      rw [isNull_of_decode hv]
      cases j with
      | null => exact absurd rfl hj
      | _ => rfl
    rw [Option.map_some, asRead_of_decode hv, Option.filter_some, hnull]
    rfl

end Value

/-! ## Criteria -/

namespace Criterion

variable {j : Json} {c : Criterion}

/-- The place of the operand in a stored criterion: the member `value` of an object, or the third
item of an array. -/
def storedOperand? : Json → Option Json
  | .object members => Json.member? "value" members
  | .array items => items[2]?
  | _ => none

/-- The operand is what stands in its place, read as one that may be missing. -/
theorem operand_of_decode (h : decode j = .ok c) :
    match storedOperand? j with
    | some operand => Json.decodeOption Value.decode operand = .ok c.operand
    | none => c.operand = none := by
  cases j with
  | object members =>
    obtain ⟨_, -, h⟩ := bind_eq_ok_iff.mp h
    obtain ⟨_, -, h⟩ := bind_eq_ok_iff.mp h
    obtain ⟨read, hread, h⟩ := bind_eq_ok_iff.mp h
    obtain ⟨field, -, h⟩ := bind_eq_ok_iff.mp h
    obtain ⟨op, -, h⟩ := bind_eq_ok_iff.mp h
    cases h
    rw [Json.decodeMember] at hread
    rw [storedOperand?]
    cases hmember : Json.member? "value" members with
    | none =>
      rw [hmember] at hread
      cases hread
      rfl
    | some operand =>
      rw [hmember] at hread
      obtain ⟨_, hoperand, rfl⟩ := map_eq_ok_iff.mp hread
      exact hoperand
  | array items =>
    obtain ⟨field, -, h⟩ := bind_eq_ok_iff.mp h
    obtain ⟨op, -, h⟩ := bind_eq_ok_iff.mp h
    rw [storedOperand?]
    cases hitem : items[2]? with
    | none =>
      rw [hitem] at h
      obtain ⟨_, hnone, h⟩ := bind_eq_ok_iff.mp h
      obtain ⟨_, -, h⟩ := bind_eq_ok_iff.mp h
      cases h
      cases hnone
      rfl
    | some operand =>
      rw [hitem] at h
      obtain ⟨_, hoperand, h⟩ := bind_eq_ok_iff.mp h
      obtain ⟨_, -, h⟩ := bind_eq_ok_iff.mp h
      cases h
      exact hoperand
  | _ => cases h

theorem asRead_of_decode (h : decode j = .ok c) : c.asRead = c := by
  have hread := operand_of_decode h
  have hoperand : (c.operand.map Value.asRead).filter (fun v => !v.isNull) = c.operand := by
    split at hread
    · exact Value.filter_of_decodeOption hread
    · rw [hread]
      rfl
  rw [asRead, withoutNull]
  dsimp only
  rw [hoperand]

end Criterion

/-! ## Filters -/

namespace Filter

/-- The ways to spell a filter. The criteria are spelled in any way that `Criterion.decode` reads.
-/
inductive IsSpelling : Json → Filter → Prop
  | const (b : Bool) : IsSpelling (.object [("always", .bool b)]) (.const b)
  | leaf {j : Json} {c : Criterion} (h : Criterion.decode j = .ok c) :
    IsSpelling (.object [("where", j)]) (.leaf c)
  | and {i j : Json} {a b : Filter} (ha : IsSpelling i a) (hb : IsSpelling j b) :
    IsSpelling (.object [("and", .array [i, j])]) (.and a b)
  | or {i j : Json} {a b : Filter} (ha : IsSpelling i a) (hb : IsSpelling j b) :
    IsSpelling (.object [("or", .array [i, j])]) (.or a b)
  | not {j : Json} {a : Filter} (ha : IsSpelling j a) :
    IsSpelling (.object [("not", j)]) (.not a)

/-- A spelling of `f` is read as `f`. -/
theorem decode_of_isSpelling {j : Json} {f : Filter} (h : IsSpelling j f) : decode j = .ok f := by
  induction h with
  | const b => rfl
  | leaf h =>
    show (Criterion.decode _).map Formula.leaf = _
    rw [h]
    rfl
  | and _ _ iha ihb | or _ _ iha ihb =>
    show (decodePair _ (.array [_, _])).map _ = _
    rw [decodePair, iha, ihb]
    rfl
  | not _ ih =>
    show (decode _).map Formula.not = _
    rw [ih]
    rfl

/-- Nothing else than an object with a single member is read as a filter. -/
theorem decode_ne_ok {j : Json} {f : Filter}
    (hj : ∀ tag content, j = .object [(tag, content)] → False) : decode j ≠ .ok f := by
  rw [decode.eq_2 j hj]
  split <;> exact nofun

mutual

/-- What is read as `f` is a spelling of it. -/
theorem isSpelling_of_decode {j : Json} {f : Filter} (h : decode j = .ok f) : IsSpelling j f := by
  match j with
  | .object [(tag, content)] =>
    rw [decode] at h
    split at h
    · rename_i htag
      obtain ⟨b, hb, rfl⟩ := map_eq_ok_iff.mp h
      cases content with
      | bool =>
        cases hb
        exact htag ▸ .const b
      | _ => cases hb
    split at h
    · rename_i htag
      obtain ⟨c, hc, rfl⟩ := map_eq_ok_iff.mp h
      exact htag ▸ .leaf hc
    split at h
    · rename_i htag
      obtain ⟨a, ha, rfl⟩ := map_eq_ok_iff.mp h
      exact htag ▸ .not (isSpelling_of_decode ha)
    split at h
    · rename_i htag
      obtain ⟨⟨a, b⟩, hpair, rfl⟩ := map_eq_ok_iff.mp h
      obtain ⟨i, k, rfl, hi, hk⟩ := isSpelling_of_decodePair hpair
      exact htag ▸ .and hi hk
    split at h
    · rename_i htag
      obtain ⟨⟨a, b⟩, hpair, rfl⟩ := map_eq_ok_iff.mp h
      obtain ⟨i, k, rfl, hi, hk⟩ := isSpelling_of_decodePair hpair
      exact htag ▸ .or hi hk
    · cases h
  | .object [] | .object (_ :: _ :: _) | .null | .bool _ | .number _ | .string _ | .array _ =>
    exact absurd h (decode_ne_ok nofun)

theorem isSpelling_of_decodePair {name : String} {j : Json} {a b : Filter}
    (h : decodePair name j = .ok (a, b)) :
    ∃ i k, j = .array [i, k] ∧ IsSpelling i a ∧ IsSpelling k b := by
  match j with
  | .array [i, k] =>
    rw [decodePair] at h
    split at h
    · cases h
    rename_i hi
    split at h
    · cases h
    rename_i hk
    cases h
    exact ⟨i, k, rfl, isSpelling_of_decode hi, isSpelling_of_decode hk⟩
  | .array [i] =>
    rw [decodePair] at h
    split at h <;> cases h
  | .array (i :: k :: _ :: _) =>
    rw [decodePair] at h
    split at h
    · cases h
    split at h <;> cases h
  | .array [] | .object _ | .null | .bool _ | .number _ | .string _ => cases h

end

/-- A value `j` is read as `f` just if it is a way to spell `f`. -/
theorem decode_eq_ok_iff {j : Json} {f : Filter} : decode j = .ok f ↔ IsSpelling j f :=
  ⟨isSpelling_of_decode, decode_of_isSpelling⟩

/-- A filter that was read of a spelling is read again as it is. -/
theorem map_asRead_of_isSpelling {j : Json} {f : Filter} (h : IsSpelling j f) :
    f.map Criterion.asRead = f := by
  induction h with
  | const b => rfl
  | leaf h => rw [Formula.map, Criterion.asRead_of_decode h]
  | and _ _ iha ihb | or _ _ iha ihb => rw [Formula.map, iha, ihb]
  | not _ ih => rw [Formula.map, ih]

variable {α : Type}

/-- A specification is made of everything that is read as a filter that passes its check, but for
null. -/
theorem exists_ofJson_iff (j : Json) :
    (∃ s : Specification α, Specification.ofJson j = .ok s) ↔
      j ≠ .null ∧ ∃ f, decode j = .ok f ∧ f.validate = .ok () := by
  rw [Specification.ofJson]
  by_cases hnull : j.isNull = true
  · rw [if_pos hnull]
    constructor
    · rintro ⟨s, hs⟩
      cases hs
    · rintro ⟨-, f, hf, -⟩
      cases decode_eq_ok_iff.mp hf <;> cases hnull
  rw [if_neg hnull]
  cases hread : decode j with
  | ok f =>
    have hj : j ≠ .null := fun h => hnull (congrArg Json.isNull h)
    show (∃ s : Specification α, Specification.ofFilter f = .ok s) ↔ _
    rw [Specification.exists_ofFilter_iff]
    constructor
    · intro hvalid
      exact ⟨hj, f, rfl, hvalid⟩
    · rintro ⟨-, g, hg, hvalid⟩
      cases hg
      exact hvalid
  | error e =>
    constructor
    · rintro ⟨s, hs⟩
      cases hs
    · rintro ⟨-, f, hf, -⟩
      cases hf

/-- What was read of any spelling `j` is read again of what is written of it, and is written as it
was before. A specification is made of `j` just if that is not null, a filter is read of it, and the
filter passes its check. -/
theorem reading_isStable (j : Json) :
    (∀ f, decode j = .ok f → decode f.encode.sorted = .ok f ∧
        (decode f.encode.sorted).map (fun g => g.encode.sorted) = .ok f.encode.sorted) ∧
      ((∃ s : Specification α, Specification.ofJson j = .ok s) ↔
        j ≠ .null ∧ ∃ f, decode j = .ok f ∧ f.validate = .ok ()) := by
  refine ⟨?_, exists_ofJson_iff j⟩
  intro f h
  have hsame := map_asRead_of_isSpelling (decode_eq_ok_iff.mp h)
  have hagain : decode f.encode.sorted = .ok f := by rw [decode_encode, hsame]
  refine ⟨hagain, ?_⟩
  rw [hagain]
  rfl

/-- Two criteria that are written in another way than they were read. The first one lacks an operand
that it needs. -/
theorem reading_isStable_unlikeWritten :
    let n : JsonNumber := .integer (2 ^ 63) (by decide) (by decide)
    let j : Json := .object [("or", .array [
      .object [("where", .object [("field", .string "period"), ("note", .bool true),
        ("op", .string "ne"), ("value", .null)])],
      .object [("where", .array [.string "size", .string "in", .array [.null, .number n]])]])]
    let f : Filter := .or (.leaf (.unary .ne "period"))
      (.leaf (.among "size" [.null, .float n.toBinary64]))
    decode j = .ok f ∧
      (decode f.encode.sorted = .ok f ∧
        (decode f.encode.sorted).map (fun g => g.encode.sorted) = .ok f.encode.sorted) ∧
      ¬ ∃ s : Specification Json, Specification.ofJson j = .ok s := by
  intro n j f
  have hread : decode j = .ok f := rfl
  obtain ⟨hstable, hspecification⟩ := reading_isStable (α := Json) j
  refine ⟨hread, hstable f hread, ?_⟩
  intro h
  obtain ⟨-, g, hg, hvalid⟩ := hspecification.mp h
  cases hread.symm.trans hg
  cases hvalid

end Filter

end Quarry
