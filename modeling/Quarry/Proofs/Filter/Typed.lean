import Quarry.Proofs.Customer.Queries
import Quarry.Proofs.Filter.Json

/-!
# Stored criteria on identifiers and moments

A criterion that compares a field with identifiers or with moments is stored with their texts in
place of them. What is read of it compares the field with these texts, and each text is read again
whenever a value is compared with it.

Every identifier is read again, and so is every moment whose year has four digits. The text of any
other moment starts with a sign, which the strict format of moments does not have, so it is compared
as the text that it is. The order of the texts is not that of the moments then: no moment equals
what it is compared with (`Value.compareTimestampText_renderZulu_eq_iff`), and some moment lies on
the other side of it (`Value.exists_compareTimestampText_renderZulu`). So a stored criterion tests
such fields as the criterion itself does just if no moment that it compares with has a year of that
kind (`Criterion.agreesOn_stored_iff`).
-/

namespace Quarry

/-! ## Texts of moments -/

namespace Timestamp

/-- The year of `t` is written with four digits and no sign. -/
def HasFourDigitYear (t : Timestamp) : Prop :=
  0 ≤ (Date.ofDayNumber t.day).year ∧ (Date.ofDayNumber t.day).year ≤ 9999

instance (t : Timestamp) : Decidable t.HasFourDigitYear :=
  inferInstanceAs (Decidable (_ ∧ _))

theorem toList_renderLocal (t : Timestamp) :
    ∃ rest, t.renderLocal.toList = yearChars (Date.ofDayNumber t.day).year ++ rest := by
  simp only [renderLocal, String.toList_append, toList_renderYear, List.append_assoc]
  exact ⟨_, rfl⟩

theorem toList_renderZulu_of_not_hasFourDigitYear {t : Timestamp} (h : ¬ t.HasFourDigitYear) :
    ∃ rest, 4 ≤ rest.length ∧
      t.renderZulu.toList = (if (Date.ofDayNumber t.day).year < 0 then '-' else '+') :: rest := by
  obtain ⟨rest, hrest⟩ := t.toList_renderLocal
  have hyear : yearChars (Date.ofDayNumber t.day).year = _ := if_neg h
  have hlength := le_length_paddedChars 4 (Date.ofDayNumber t.day).year.natAbs
  rw [renderZulu, String.toList_append, hrest, hyear, List.cons_append, List.cons_append]
  refine ⟨_, ?_, rfl⟩
  rw [List.length_append, List.length_append]
  omega

theorem readStrict_renderZulu_of_not_hasFourDigitYear {t : Timestamp} (h : ¬ t.HasFourDigitYear) :
    readStrict t.renderZulu = .error .invalid := by
  obtain ⟨rest, hlength, hchars⟩ := toList_renderZulu_of_not_hasFourDigitYear h
  generalize hsign : (if (Date.ofDayNumber t.day).year < 0 then '-' else '+') = sign at hchars
  have hdigit : sign.isDigit = false := by
    rw [← hsign]
    split <;> rfl
  have hnumber : number 4 4 (sign :: rest) = .error .invalid := by
    have hbytes := length_le_byteCount (sign :: rest)
    rw [List.length_cons] at hbytes
    have hnone : leadingDigits 4 (sign :: rest) = [] := by
      rw [leadingDigits, if_neg (by rw [hdigit]; exact Bool.false_ne_true)]
    rw [number, if_neg (by omega), hnone]
    rfl
  rw [readStrict, hchars, hnumber]
  rfl

theorem compare_of_day_lt {a b : Timestamp} (h : a.day < b.day) : compare a b = .lt := by
  rw [compare_def, compare_lt_iff_lt.mpr h]
  rfl

theorem render_ne_renderZulu (a b : Timestamp) : a.render ≠ b.renderZulu := by
  intro h
  have hlast := congrArg (fun s => s.toList.getLast?) h
  simp [render, renderZulu, String.toList_append] at hlast

end Timestamp

namespace Value

theorem exists_uuid_of_type {v : Value} (hv : v.type = .uuid) : ∃ u, v = .uuid u := by
  cases v with
  | uuid u => exact ⟨u, rfl⟩
  | _ => cases hv

theorem exists_timestamp_of_type {v : Value} (hv : v.type = .timestamp) :
    ∃ t, v = .timestamp t := by
  cases v with
  | timestamp t => exact ⟨t, rfl⟩
  | _ => cases hv

/-- Against the text of a moment whose year does not have four digits, moments are compared as
texts. -/
theorem compareTimestampText_renderZulu_of_not {t : Timestamp} (h : ¬ t.HasFourDigitYear)
    (a : Timestamp) : compareTimestampText a t.renderZulu = Ord.compare a.render t.renderZulu := by
  unfold compareTimestampText
  rw [Timestamp.readStrict_renderZulu_of_not_hasFourDigitYear h]

/-- A moment `a` equals the text of `t` just if it is `t` and its year has four digits. -/
theorem compareTimestampText_renderZulu_eq_iff (a t : Timestamp) :
    compareTimestampText a t.renderZulu = .eq ↔ a = t ∧ t.HasFourDigitYear := by
  by_cases h : t.HasFourDigitYear
  · rw [compareTimestampText_renderZulu h a, Std.LawfulEqCmp.compare_eq_iff_eq, and_iff_left h]
  · rw [compareTimestampText_renderZulu_of_not h, Std.LawfulEqCmp.compare_eq_iff_eq]
    exact iff_of_false (Timestamp.render_ne_renderZulu a t) fun hand => h hand.2

/-- Texts are in the order of their first characters, if these differ. -/
theorem compare_text_of_head_lt {s t : String} {c d : Char} {cs ds : List Char}
    (hs : s.toList = c :: cs) (ht : t.toList = d :: ds) (h : c < d) : Ord.compare s t = .lt := by
  rw [Uuid.compare_text_eq_lt_iff, String.lt_iff, hs, ht, List.cons_lt_cons_iff]
  exact .inl h

/-- If the year of `t` does not have four digits, some moment is on the other side of its text than of
`t` itself. A plus sign precedes a minus sign and the digits, so year 10000 is written before all
years before year 0, and all years after year 9999 are written before 1970. -/
theorem exists_compareTimestampText_renderZulu {t : Timestamp} (h : ¬ t.HasFourDigitYear) :
    ∃ a, Ord.compare a t ≠ .eq ∧ compareTimestampText a t.renderZulu = (Ord.compare a t).swap := by
  obtain ⟨rest, -, hchars⟩ := Timestamp.toList_renderZulu_of_not_hasFourDigitYear h
  by_cases hneg : (Date.ofDayNumber t.day).year < 0
  · have hday : t.day < 2932897 := by
      have hfirst := mt (Date.le_year_ofDayNumber_iff 0 t.day).mpr (not_le.mpr hneg)
      exact Int.lt_trans (not_le.mp hfirst) (by decide)
    have hmoment : Ord.compare (Timestamp.midnight 2932897) t = .gt :=
      Std.OrientedCmp.gt_of_lt (Timestamp.compare_of_day_lt hday)
    obtain ⟨rest', hrest'⟩ := (Timestamp.midnight 2932897).toList_renderLocal
    have htext : (Timestamp.midnight 2932897).render.toList =
        '+' :: (['1', '0', '0', '0', '0'] ++ rest' ++ "+00:00".toList) := by
      rw [Timestamp.render, String.toList_append, hrest']
      rfl
    rw [if_pos hneg] at hchars
    refine ⟨.midnight 2932897, by rw [hmoment]; decide, ?_⟩
    rw [compareTimestampText_renderZulu_of_not h, hmoment]
    exact compare_text_of_head_lt htext hchars (by decide)
  · have hday : 0 < t.day := by
      have hlast : ¬ (Date.ofDayNumber t.day).year ≤ 9999 := fun hle => h ⟨not_lt.mp hneg, hle⟩
      rw [Date.year_ofDayNumber_le_iff, not_le] at hlast
      exact Int.lt_trans (by decide) hlast
    have hmoment : Ord.compare (Timestamp.midnight 0) t = .lt :=
      Timestamp.compare_of_day_lt hday
    obtain ⟨rest', hrest'⟩ := (Timestamp.midnight 0).toList_renderLocal
    have htext : (Timestamp.midnight 0).render.toList =
        '1' :: (['9', '7', '0'] ++ rest' ++ "+00:00".toList) := by
      rw [Timestamp.render, String.toList_append, hrest']
      rfl
    rw [if_neg hneg] at hchars
    refine ⟨.midnight 0, by rw [hmoment]; decide, ?_⟩
    rw [compareTimestampText_renderZulu_of_not h, hmoment]
    exact Std.OrientedCmp.gt_of_lt (compare_text_of_head_lt hchars htext (by decide))

/-- An identifier or null is compared with the text of an identifier as with the identifier, and a
moment or null with the text of a moment whose year has four digits as with the moment. -/
theorem compare_asRead {type : ValueType} (htype : type = .uuid ∨ type = .timestamp)
    {actual v : Value} (hactual : actual.type = type ∨ actual = .null) (hv : v.type = type)
    (hyear : ∀ t, v = .timestamp t → t.HasFourDigitYear) :
    actual.compare v.asRead = actual.compare v := by
  rcases htype with rfl | rfl
  · obtain ⟨u, rfl⟩ := exists_uuid_of_type hv
    rcases hactual with hactual | rfl
    · obtain ⟨w, rfl⟩ := exists_uuid_of_type hactual
      exact congrArg (fun o => Except.ok (some o)) (compareUuidText_render w u)
    · rfl
  · obtain ⟨t, rfl⟩ := exists_timestamp_of_type hv
    rcases hactual with hactual | rfl
    · obtain ⟨a, rfl⟩ := exists_timestamp_of_type hactual
      exact congrArg (fun o => Except.ok (some o)) (compareTimestampText_renderZulu (hyear t rfl) a)
    · rfl

end Value

/-! ## Criteria -/

/-- Whether the operator asks for the order of two values. -/
def Operator.isComparison : Operator → Bool
  | .eq | .ne | .lt | .le | .gt | .ge => true
  | _ => false

/-- No operator that tells greater from less takes an order `o` and its reverse alike. -/
theorem Operator.holdsOf_swap_ne {op : Operator} (hop : op.isComparison = true)
    (hne : op ≠ .eq ∧ op ≠ .ne) {o : Ordering} (ho : o ≠ .eq) :
    op.holdsOf (some o.swap) ≠ op.holdsOf (some o) := by
  obtain ⟨heq, hne⟩ := hne
  cases op with
  | eq => exact absurd rfl heq
  | ne => exact absurd rfl hne
  | lt | le | gt | ge => cases o <;> first | exact absurd rfl ho | decide
  | _ => cases hop

theorem Operator.holdsOf_ne_of_ne_eq {op : Operator} (hop : op = .eq ∨ op = .ne) {o : Ordering}
    (ho : o ≠ .eq) : op.holdsOf (some o) ≠ op.holdsOf (some .eq) := by
  rcases hop with rfl | rfl <;> cases o <;> first | exact absurd rfl ho | decide

namespace Criterion

/-- The criterion compares a field with one value of the `type`, or asks whether it is among such
values. -/
inductive ComparesWith (type : ValueType) : Criterion → Prop where
  | comparison (field : String) {op : Operator} {v : Value} (hop : op.isComparison = true)
      (hv : v.type = type) : ComparesWith type (binary op field v)
  | membership (field : String) {candidates : List Value} (h : ∀ v ∈ candidates, v.type = type) :
      ComparesWith type (among field candidates)

/-- The criteria `c` and `c'` have one result, be it an error, on every record whose field holds a
value of the `type` or null. -/
def AgreesOn (type : ValueType) (c c' : Criterion) : Prop :=
  ∀ {α : Type} [Record α] (record : α) (v : Value), Record.field? record c.field = some v →
    (v.type = type ∨ v = .null) → c'.evaluate record = c.evaluate record

variable {type : ValueType} {c : Criterion}

/-- Criteria about one field agree if they test all values of the `type`, and null, alike. -/
theorem agreesOn_iff {c' : Criterion} (hfield : c'.field = c.field) :
    c.AgreesOn type c' ↔
      ∀ v : Value, (v.type = type ∨ v = .null) → c'.testValue v = c.testValue v := by
  have hevaluate {α : Type} [Record α] {record : α} {v : Value}
      (hv : Record.field? record c.field = some v) :
      c'.evaluate record = c.evaluate record ↔ c'.testValue v = c.testValue v := by
    rw [evaluate, evaluate, hfield, hv]
    exact mapError_eq_mapError_iff fun _ _ h => (EvaluationError.typeMismatch.inj h).2
  constructor
  · intro h v hv
    have hlookup : Record.field? [(c.field, v)] c.field = some v := List.lookup_cons_self
    exact (hevaluate hlookup).mp (h [(c.field, v)] v hlookup hv)
  · intro h α _ record v hlookup hv
    exact (hevaluate hlookup).mpr (h v hv)

theorem testValue_binary {op : Operator} (hop : op.isComparison = true) (field : String)
    {v : Value} (hv : v.isNull = false) (actual : Value) :
    (binary op field v).testValue actual = compareWith op actual v := by
  cases op with
  | eq | ne => simp [testValue, binary, testOperand, hv]
  | lt | le | gt | ge => rfl
  | _ => cases hop

theorem comparands_binary {op : Operator} (hop : op.isComparison = true) (field : String)
    (v : Value) : (binary op field v).comparands = [v] := by
  cases op with
  | eq | ne | lt | le | gt | ge => rfl
  | _ => cases hop

theorem not_isNull_of_type {v : Value} (htype : type = .uuid ∨ type = .timestamp)
    (hv : v.type = type) : v.isNull = false ∧ v.asRead.isNull = false := by
  subst hv
  cases v <;> simp_all [Value.type, Value.isNull, Value.asRead]

/-- What is read of a comparison with an identifier or a moment is a comparison with its text. -/
theorem asRead_binary {v : Value} (hv : v.asRead.isNull = false) (op : Operator) (field : String) :
    asRead (binary op field v) = binary op field v.asRead := by
  rw [asRead, withoutNull]
  simp [binary, Option.filter, hv]

theorem asRead_among (field : String) (candidates : List Value) :
    asRead (among field candidates) = among field (Value.asReadItems candidates) :=
  rfl

/-- A value is among the texts of `candidates` as it is among them, if it compares with each text as
with the candidate. -/
theorem equalsAny_asReadItems {actual : Value} {candidates : List Value}
    (h : ∀ v ∈ candidates, actual.compare v.asRead = actual.compare v) :
    equalsAny actual (Value.asReadItems candidates) = equalsAny actual candidates := by
  induction candidates with
  | nil => rfl
  | cons v rest ih =>
    rw [List.forall_mem_cons] at h
    rw [Value.asReadItems, equalsAny, equalsAny, compareWith, compareWith, h.1, ih h.2]

/-- With four digits in every year each value is tested as before. -/
theorem testValue_asRead (htype : type = .uuid ∨ type = .timestamp) (hc : c.ComparesWith type)
    (hyear : ∀ t, .timestamp t ∈ c.comparands → t.HasFourDigitYear) {actual : Value}
    (hactual : actual.type = type ∨ actual = .null) :
    c.asRead.testValue actual = c.testValue actual := by
  cases hc with
  | comparison field hop hv =>
    obtain ⟨hnull, hnullRead⟩ := not_isNull_of_type htype hv
    rw [comparands_binary hop] at hyear
    have hcompare := Value.compare_asRead htype hactual hv fun t ht =>
      hyear t (List.mem_singleton.mpr ht.symm)
    rw [asRead_binary hnullRead, testValue_binary hop field hnullRead,
      testValue_binary hop field hnull, compareWith, compareWith, hcompare]
  | membership field h =>
    rw [asRead_among]
    refine equalsAny_asReadItems fun v hv => ?_
    refine Value.compare_asRead htype hactual (h v hv) fun t ht => hyear t ?_
    rw [← ht]
    exact hv

/-- A moment `t` is found among moments with `t` among them. -/
theorem equalsAny_timestamp {t : Timestamp} {candidates : List Value}
    (h : ∀ v ∈ candidates, v.type = .timestamp) (ht : .timestamp t ∈ candidates) :
    equalsAny (.timestamp t) candidates = .ok true := by
  induction candidates with
  | nil => cases ht
  | cons v rest ih =>
    rw [List.forall_mem_cons] at h
    obtain ⟨u, rfl⟩ := Value.exists_timestamp_of_type h.1
    have hcompare : compareWith .eq (.timestamp t) (.timestamp u) =
        .ok (some (Ord.compare t u) == some .eq) := rfl
    rw [equalsAny, hcompare]
    by_cases htu : Ord.compare t u = .eq
    · rw [htu]
      rfl
    · have hrest : .timestamp t ∈ rest := by
        rcases List.mem_cons.mp ht with heq | hrest
        · cases heq
          exact absurd (Std.LawfulEqCmp.compare_eq_iff_eq.mpr rfl) htu
        · exact hrest
      have hfalse : (some (Ord.compare t u) == some .eq) = false := by simp [htu]
      rw [hfalse]
      exact ih h.2 hrest

/-- A moment `t` whose year does not have four digits is not found among the texts of moments. -/
theorem equalsAny_asReadItems_timestamp {t : Timestamp} (hyear : ¬ t.HasFourDigitYear)
    {candidates : List Value} (h : ∀ v ∈ candidates, v.type = .timestamp) :
    equalsAny (.timestamp t) (Value.asReadItems candidates) = .ok false := by
  induction candidates with
  | nil => rfl
  | cons v rest ih =>
    rw [List.forall_mem_cons] at h
    obtain ⟨u, rfl⟩ := Value.exists_timestamp_of_type h.1
    have hne : Value.compareTimestampText t u.renderZulu ≠ .eq := by
      rw [Ne, Value.compareTimestampText_renderZulu_eq_iff]
      rintro ⟨rfl, hu⟩
      exact hyear hu
    have hcompare : compareWith .eq (.timestamp t) (.text u.renderZulu) = .ok false := by
      show Except.ok (some (Value.compareTimestampText t u.renderZulu) == some .eq) = _
      simp [hne]
    rw [Value.asReadItems, Value.asRead, equalsAny, hcompare]
    exact ih h.2

/-- By every comparison, some moment is compared with the text of `t` otherwise than with `t`, if
the year of `t` does not have four digits. -/
theorem exists_compareWith_renderZulu_ne {op : Operator} (hop : op.isComparison = true)
    {t : Timestamp} (hyear : ¬ t.HasFourDigitYear) :
    ∃ a, compareWith op (.timestamp a) (.text t.renderZulu) ≠
      compareWith op (.timestamp a) (.timestamp t) := by
  have hcompare (a : Timestamp) :
      compareWith op (.timestamp a) (.text t.renderZulu) =
          .ok (op.holdsOf (some (Value.compareTimestampText a t.renderZulu))) ∧
        compareWith op (.timestamp a) (.timestamp t) =
          .ok (op.holdsOf (some (Ord.compare a t))) := ⟨rfl, rfl⟩
  by_cases heq : op = .eq ∨ op = .ne
  · have htext : Value.compareTimestampText t t.renderZulu ≠ .eq := by
      rw [Ne, Value.compareTimestampText_renderZulu_eq_iff]
      exact fun h => hyear h.2
    have hself : Ord.compare t t = .eq := Std.LawfulEqCmp.compare_eq_iff_eq.mpr rfl
    refine ⟨t, fun h => Operator.holdsOf_ne_of_ne_eq heq htext ?_⟩
    rw [(hcompare t).1, (hcompare t).2, hself] at h
    exact Except.ok.inj h
  · obtain ⟨a, ha, htext⟩ := Value.exists_compareTimestampText_renderZulu hyear
    refine ⟨a, fun h => Operator.holdsOf_swap_ne hop (not_or.mp heq) ha ?_⟩
    rw [(hcompare a).1, (hcompare a).2, htext] at h
    exact Except.ok.inj h

/-- A moment `t` whose year does not have four digits makes a difference to the test of some value.
-/
theorem exists_testValue_asRead_ne (hc : c.ComparesWith type) {t : Timestamp}
    (ht : .timestamp t ∈ c.comparands) (hyear : ¬ t.HasFourDigitYear) :
    ∃ v, v.type = type ∧ c.asRead.testValue v ≠ c.testValue v := by
  cases hc with
  | comparison field hop hv =>
    rw [comparands_binary hop] at ht
    obtain rfl := List.mem_singleton.mp ht
    obtain ⟨a, ha⟩ := exists_compareWith_renderZulu_ne hop hyear
    refine ⟨.timestamp a, hv, ?_⟩
    rw [asRead_binary rfl, testValue_binary hop field rfl, testValue_binary hop field rfl]
    exact ha
  | membership field h =>
    have htype := h _ ht
    subst htype
    refine ⟨.timestamp t, rfl, ?_⟩
    show equalsAny _ (Value.asReadItems _) ≠ equalsAny _ _
    rw [equalsAny_timestamp h ht, equalsAny_asReadItems_timestamp hyear h]
    nofun

/-- The exact condition under which a stored criterion on identifiers or on moments gives the
results of `c`. One is always read from what was `stored`. It has one result with `c` on every
record whose field holds such a value or null just if the year of each moment that `c` compares with
has four digits. -/
theorem agreesOn_stored_iff (htype : type = .uuid ∨ type = .timestamp)
    (hc : c.ComparesWith type) :
    ∃ stored, decode c.encode.sorted = .ok stored ∧
      (c.AgreesOn type stored ↔ ∀ t, .timestamp t ∈ c.comparands → t.HasFourDigitYear) := by
  refine ⟨c.asRead, c.decode_encode, ?_⟩
  have hfield : c.asRead.field = c.field := rfl
  rw [agreesOn_iff hfield]
  constructor
  · intro hagrees t ht
    by_contra hyear
    obtain ⟨v, hv, hne⟩ := exists_testValue_asRead_ne hc ht hyear
    exact hne (hagrees v (.inl hv))
  · intro hyear v hv
    exact testValue_asRead htype hc hyear hv

/-- The last moment of a year that is written with four digits, in a leap second. -/
def endOfYear9999 : Timestamp :=
  ⟨2932896, 86399, 1999999999, by decide, by decide, by decide⟩

theorem agreesOn_stored_iff_endOfYear9999 :
    let c := among "joined_at" [.timestamp endOfYear9999, .timestamp (.midnight 0)]
    c.ComparesWith .timestamp ∧
      ∃ stored, decode c.encode.sorted = .ok stored ∧ c.AgreesOn .timestamp stored := by
  intro c
  have hc : c.ComparesWith .timestamp := by
    refine .membership "joined_at" fun v hv => ?_
    rcases List.mem_pair.mp hv with rfl | rfl <;> rfl
  obtain ⟨stored, hread, hiff⟩ := agreesOn_stored_iff (.inr rfl) hc
  refine ⟨hc, stored, hread, hiff.mpr fun t ht => ?_⟩
  rcases List.mem_pair.mp ht with heq | heq <;> cases heq <;> decide

/-- An hour after the end of year 9999, less a second. West of Greenwich its year is still 9999. -/
def inYear10000 : Timestamp :=
  { Timestamp.midnight 2932897 with
    second := 3599
    second_lt := by decide
    leap_ends_minute := fun _ => rfl }

/-- A criterion finds a record, and its stored form does not. -/
theorem exists_stored_evaluate_ne :
    let c := binary .eq "joined_at" (.timestamp inYear10000)
    let record : List (String × Value) := [("joined_at", .timestamp inYear10000)]
    (c.IsValid ∧ c.ComparesWith .timestamp) ∧ c.evaluate record = .ok true ∧
      ∃ stored, decode c.encode.sorted = .ok stored ∧ stored.evaluate record = .ok false := by
  intro c record
  have hvalid : (binary .eq "joined_at" (.timestamp inYear10000)).IsValid := rfl
  exact ⟨⟨hvalid, .comparison "joined_at" rfl rfl⟩, rfl, c.asRead, c.decode_encode, rfl⟩

end Criterion

end Quarry
