import Quarry.Proofs.Customer.Json
import Quarry.Proofs.Repository.Strategy
import Quarry.Proofs.Timestamp

/-!
# Queries on the documents of customers

A specification without predicates is tested on the documents of customers. That can be seen from
the answers just if a criterion tests a field of some customer otherwise than what the document has
of it (`Criterion.TestsAlike`), or if the score of a customer is no finite number
(`Customer.strategyIsInvisible_iff_testsAlike`).

The documents have texts in place of identifiers and of moments. Against identifiers and moments
they test alike (`Criterion.testsAlike_of_comparesTyped`), but not against texts: a text that names the
identifier of a customer in another way than its document does, in capital letters for instance,
finds the customer and does not find its document (`Criterion.testsAlike_id_eq_text_iff`).
-/

namespace Quarry

open DocumentRepository

/-! ## Tests of fields and of what documents have of them -/

/-- Against the text of an identifier `v`, the identifier `u` compares as it does against `v`. -/
theorem Value.compareUuidText_render (u v : Uuid) :
    compareUuidText u v.render = Ord.compare u v := by
  unfold compareUuidText
  rw [Uuid.render, String.toList_ofList, Uuid.ofChars?_toChars]

/-- Against the text of a moment `t` whose year has four digits, `v` compares as it does against
`t`. -/
theorem Value.compareTimestampText_renderZulu {t : Timestamp}
    (hyear : 0 ≤ (Date.ofDayNumber t.day).year ∧ (Date.ofDayNumber t.day).year ≤ 9999)
    (v : Timestamp) : compareTimestampText v t.renderZulu = Ord.compare v t := by
  unfold compareTimestampText
  rw [Timestamp.readStrict_renderZulu hyear]

namespace Criterion

/-- The criterion `k` tests the field of `c` and what its document has of it with one result. -/
def TestsAlike (k : Criterion) (c : Customer) : Prop :=
  (c.field? k.field).map k.testValue = (c.keptField? k.field).map k.testValue

/-- Two records come to one result for `k` just if the values of its field do, where there are any.
-/
theorem evaluate_eq_iff {α β : Type} [Record α] [Record β] {k : Criterion} {a : α} {b : β} :
    k.evaluate a = k.evaluate b ↔
      (Record.field? a k.field).map k.testValue = (Record.field? b k.field).map k.testValue := by
  unfold evaluate
  cases Record.field? a k.field with
  | none =>
    cases Record.field? b k.field with
    | none => exact iff_of_true rfl rfl
    | some y =>
      refine iff_of_false ?_ nofun
      show Except.error _ ≠ (k.testValue y).mapError _
      cases k.testValue y <;> nofun
  | some x =>
    cases Record.field? b k.field with
    | none =>
      refine iff_of_false ?_ nofun
      show (k.testValue x).mapError _ ≠ Except.error _
      cases k.testValue x <;> nofun
    | some y =>
      show (k.testValue x).mapError _ = (k.testValue y).mapError _ ↔ some _ = some _
      rw [Option.some.injEq]
      exact mapError_eq_mapError_iff fun _ _ h => (EvaluationError.typeMismatch.inj h).2

/-- The values that `k` compares a field with. -/
def comparands (k : Criterion) : List Value :=
  match k.op, k.operand with
  | .isIn, some (.list items) => items
  | _, some v => [v]
  | _, none => []

theorem equalsAny_congr {a b : Value} {items : List Value}
    (h : ∀ v ∈ items, a.compare v = b.compare v) : equalsAny a items = equalsAny b items := by
  induction items with
  | nil => rfl
  | cons v rest ih =>
    have hv : compareWith .eq a v = compareWith .eq b v := by
      rw [compareWith, compareWith, h v List.mem_cons_self]
    rw [equalsAny, equalsAny, hv, ih fun w hw => h w (List.mem_cons_of_mem _ hw)]

theorem compareWith_congr {op : Operator} {a b v : Value} (h : a.compare v = b.compare v) :
    compareWith op a v = compareWith op b v := by
  rw [compareWith, compareWith, h]

/-- A comparison by `k` cannot tell apart two values `a` and `b` that are in the same order to what
it compares them with. -/
theorem testValue_congr {k : Criterion} (hop : k.op ≠ .contains ∧ k.op ≠ .startsWith) {a b : Value}
    (hnull : a.isNull = b.isNull) (h : ∀ v ∈ k.comparands, a.compare v = b.compare v) :
    k.testValue a = k.testValue b := by
  obtain ⟨field, op, operand⟩ := k
  cases operand with
  | none => cases op <;> simp [testValue, hnull]
  | some v =>
    cases op with
    | contains => exact absurd rfl hop.1
    | startsWith => exact absurd rfl hop.2
    | isIn =>
      cases v with
      | list items => exact equalsAny_congr h
      | _ => rfl
    | isNull => exact congrArg Except.ok hnull
    | isNotNull => exact congrArg (fun b => Except.ok !b) hnull
    | _ =>
      have hv := h v (List.mem_singleton.mpr rfl)
      simp only [testValue, testOperand, hnull, compareWith_congr hv]

theorem compare_text_render (u v : Uuid) :
    (Value.text u.render).compare (.uuid v) = (Value.uuid u).compare (.uuid v) := by
  show Except.ok (some (Value.compareUuidText v u.render).swap) = .ok (some (Ord.compare u v))
  rw [Value.compareUuidText_render, ← Std.OrientedCmp.eq_swap]

theorem compare_text_renderZulu {t : Timestamp}
    (hyear : 0 ≤ (Date.ofDayNumber t.day).year ∧ (Date.ofDayNumber t.day).year ≤ 9999)
    (v : Timestamp) :
    (Value.text t.renderZulu).compare (.timestamp v) =
      (Value.timestamp t).compare (.timestamp v) := by
  show Except.ok (some (Value.compareTimestampText v t.renderZulu).swap) =
    .ok (some (Ord.compare t v))
  rw [Value.compareTimestampText_renderZulu hyear, Timestamp.compare_swap]

/-- Apart from identifiers and moments a document has the fields of `c` as they are, as long as its
score is finite and its version is below `2 ^ 63`. -/
theorem testsAlike_of_field {k : Criterion} {c : Customer}
    (hfield : k.field ≠ "id" ∧ k.field ≠ "joined_at") (hscore : c.state.score.isFinite = true)
    (hversion : c.version.toNat < 2 ^ 63) : k.TestsAlike c := by
  obtain ⟨hid, hjoined⟩ := hfield
  unfold TestsAlike Customer.keptField?
  split
  · next hname => exact absurd hname hid
  · next hname =>
    rw [hname, if_pos hscore]
    rfl
  · next hname => exact absurd hname hjoined
  · next hname =>
    rw [hname, if_pos hversion]
    rfl
  · rfl

/-- The criterion `k` compares the `id` of a customer with identifiers only, or its `joined_at` with
moments only. -/
def ComparesTyped (k : Criterion) : Prop :=
  (k.op ≠ .contains ∧ k.op ≠ .startsWith) ∧
    (k.field = "id" ∧ (∀ v ∈ k.comparands, ∃ u, v = .uuid u) ∨
      k.field = "joined_at" ∧ ∀ v ∈ k.comparands, ∃ t, v = .timestamp t)

/-- Comparisons with identifiers and with moments test alike, if the customer joined in a year of
four digits. -/
theorem testsAlike_of_comparesTyped {k : Criterion} {c : Customer} (hk : k.ComparesTyped)
    (hyear : ∀ t, c.state.joinedAt = some t →
      0 ≤ (Date.ofDayNumber t.day).year ∧ (Date.ofDayNumber t.day).year ≤ 9999) :
    k.TestsAlike c := by
  obtain ⟨hop, htyped⟩ := hk
  unfold TestsAlike
  rcases htyped with ⟨hfield, htyped⟩ | ⟨hfield, htyped⟩
  · rw [hfield]
    refine congrArg some (testValue_congr hop rfl fun v hv => ?_)
    obtain ⟨u, rfl⟩ := htyped v hv
    exact (compare_text_render c.id.uuid u).symm
  · rw [hfield]
    show some (k.testValue _) = some (k.testValue _)
    cases hjoined : c.state.joinedAt with
    | none => rfl
    | some t =>
      refine congrArg some (testValue_congr hop rfl fun v hv => ?_)
      obtain ⟨u, rfl⟩ := htyped v hv
      exact (compare_text_renderZulu (hyear t hjoined) u).symm

/-- A text `s` tests alike against an identifier if it does not name it, or names it as the document
does. -/
theorem testsAlike_id_eq_text_iff {c : Customer} {s : String} :
    (binary .eq "id" (.text s)).TestsAlike c ↔
      (Uuid.ofChars? s.toList = some c.id.uuid → s = c.id.render) := by
  have hread : Uuid.ofChars? c.id.render.toList = some c.id.uuid := by
    rw [EntityId.render, Uuid.render, String.toList_ofList, Uuid.ofChars?_toChars]
  show some (Except.ok (some (Value.compareUuidText c.id.uuid s) == some .eq)) =
    some (Except.ok (some (Ord.compare c.id.render s) == some .eq)) ↔ _
  unfold Value.compareUuidText
  cases hs : Uuid.ofChars? s.toList with
  | none => exact iff_of_true rfl fun h => (Option.some_ne_none _ h.symm).elim
  | some v =>
    have hrender : Ord.compare c.id.render s = .eq ↔ s = c.id.render :=
      Std.LawfulEqCmp.compare_eq_iff_eq.trans eq_comm
    by_cases hv : v = c.id.uuid
    · subst hv
      simp [hrender]
    · have hne : s ≠ c.id.render := by
        rintro rfl
        exact hv (Option.some.inj (hs.symm.trans hread))
      have huuid : Ord.compare c.id.uuid v ≠ .eq := fun h =>
        hv (Std.LawfulEqCmp.eq_of_compare h).symm
      simp [hv, huuid, hrender, hne]

end Criterion

namespace Customer

/-- Nothing but its pending events is lost when `c` is kept: its score is finite, and it joined on a
day of the calendar. -/
structure IsReadable (c : Customer) : Prop where
  score : c.state.score.isFinite = true
  joinedAt : ∀ t, c.state.joinedAt = some t → Timestamp.isDayInRange t.day = true

/-- The body of a document of `c` is an object that holds `c`. -/
theorem isKeptAs_of_documentOf {c : Customer} {d : StoredDocument} (h : documentOf c = .ok d) :
    ∃ members, d.body = .object members ∧ c.IsKeptAs members :=
  isKeptAs_of_store (store_of_documentOf h).2

/-- The document of a readable customer is decoded without its pending events. -/
theorem decode_documentOf {c : Customer} {d : StoredDocument} (h : documentOf c = .ok d)
    (hc : c.IsReadable) : JsonCodec.decode d.body = .ok c.clearEvents := by
  obtain ⟨members, hbody, hkept⟩ := isKeptAs_of_documentOf h
  rw [hbody]
  exact decode_kept hkept hc.score hc.joinedAt

/-- A readable customer `c` is read back from its document. -/
theorem read_documentOf {c : Customer} {d : StoredDocument} (h : documentOf c = .ok d)
    (hc : c.IsReadable) : read d = .ok c.clearEvents := by
  unfold DocumentRepository.read
  rw [decode_documentOf h hc, (store_of_documentOf h).1]
  rfl

/-- A customer `c` whose score is no finite number cannot be read. -/
theorem read_documentOf_of_not_isFinite {c : Customer} {d : StoredDocument}
    (h : documentOf c = .ok d) (hscore : c.state.score.isFinite = false) :
    ∃ e, read (σ := CustomerProfile) (ε := CustomerEvent) d = .error e := by
  obtain ⟨members, hbody, hkept⟩ := isKeptAs_of_documentOf h
  obtain ⟨e, he⟩ := decode_kept_of_not_isFinite hkept hscore
  have hdecode : (JsonCodec.decode d.body : Except DecodeError Customer) = .error e := by
    rw [hbody]
    exact he
  unfold DocumentRepository.read
  rw [hdecode]
  exact ⟨_, rfl⟩

/-- On the document of `c`, a criterion about one of the `fieldNames` comes to what it does on `c`,
just if it tests both alike. -/
theorem evaluate_documentOf_iff {c : Customer} {d : StoredDocument} (h : documentOf c = .ok d)
    {k : Criterion} (hfield : k.field ∈ fieldNames) :
    k.evaluate d = k.evaluate c.clearEvents ↔ k.TestsAlike c := by
  obtain ⟨members, hbody, hkept⟩ := isKeptAs_of_documentOf h
  have hd : Record.field? d k.field = c.keptField? k.field := by
    show Record.field? d.body k.field = _
    rw [hbody]
    exact field?_document hkept hfield
  rw [Criterion.evaluate_eq_iff, hd]
  exact eq_comm

/-- A customer `c` can be stored at any `version`, unless its note is confidential. -/
theorem exists_documentOf {c : Customer} (h : Note.isConfidential c.state.note = false)
    (version : UInt64) : ∃ d, documentOf (c.atVersion version) = .ok d := by
  have hnote : Note.encode c.state.note = .ok (.string c.state.note) := by
    rw [Note.encode, h]
    rfl
  have hstore : ∃ body, JsonCodec.store (c.atVersion version) = .ok body := by
    show ∃ body, ((Note.encode c.state.note).map _).map Json.sorted = .ok body
    rw [hnote]
    exact ⟨_, rfl⟩
  obtain ⟨body, hbody⟩ := hstore
  unfold documentOf
  rw [hbody]
  exact ⟨_, rfl⟩

/-- A customer that can be stored is kept, alone, by a repository that writes lead to. -/
theorem exists_reachable_keeps {c : Customer} (hnote : Note.isConfidential c.state.note = false)
    (hversion : c.version ≠ 0) :
    ∃ r : DocumentRepository CustomerProfile CustomerEvent, Reachable r ∧ r.Keeps [c] := by
  obtain ⟨r, hr, halone⟩ := exists_alone (exists_documentOf hnote) (c.version.toNat - 1)
  have hne : c.version.toNat ≠ 0 := fun h => hversion (UInt64.toNat_inj.mp h)
  rw [Nat.sub_add_cancel (Nat.pos_of_ne_zero hne), UInt64.ofNat_toNat] at halone
  exact ⟨r, hr, halone.keeps⟩

/-! ## Answers -/

variable {vocabulary : Criterion → Prop} {r : DocumentRepository CustomerProfile CustomerEvent}

/-- The strategy of `r` does not show if the customers it keeps can be read and each criterion in
the `vocabulary` tests them alike. -/
theorem strategyIsInvisible_of_testsAlike
    (hfields : ∀ k, vocabulary k → k.field ∈ fieldNames) {cs : List Customer} (hkeeps : r.Keeps cs)
    (h : ∀ c ∈ cs, c.IsReadable ∧ ∀ k, vocabulary k → k.TestsAlike c) :
    r.StrategyIsInvisible vocabulary := by
  intro s f hf hleaves name
  have hagrees : List.Forall₂ (fun c d => Agrees f s c.clearEvents d) cs r.documents := by
    refine List.Forall₂.imp ?_ ((List.forall₂_and_left _ _).mpr ⟨h, hkeeps⟩)
    intro c d hcd
    obtain ⟨⟨hc, halike⟩, hd⟩ := hcd
    refine ⟨read_documentOf hd hc, ?_⟩
    rw [Specification.isSatisfiedBy_of_toFilter? hf]
    refine Formula.eval_congr fun k hk => ?_
    exact (evaluate_documentOf_iff hd (hfields k (hleaves k hk))).mpr (halike k (hleaves k hk))
  exact answersAlike_of_agrees hf (List.forall₂_map_left_iff.mpr hagrees) name

/-- In a program that compares identifiers with identifiers and moments with moments, the strategy
of `r` does not show, as long as scores are finite, years have four digits and versions are below
`2 ^ 63`. -/
theorem strategyIsInvisible_of_comparesTyped {cs : List Customer} (hkeeps : r.Keeps cs)
    (h : ∀ c ∈ cs, c.state.score.isFinite = true ∧ c.version.toNat < 2 ^ 63 ∧
      ∀ t, c.state.joinedAt = some t →
        0 ≤ (Date.ofDayNumber t.day).year ∧ (Date.ofDayNumber t.day).year ≤ 9999) :
    r.StrategyIsInvisible fun k => k.field ∈ fieldNames ∧
      (k.field ≠ "id" ∧ k.field ≠ "joined_at" ∨ k.ComparesTyped) := by
  refine strategyIsInvisible_of_testsAlike (fun k hk => hk.1) hkeeps fun c hc => ?_
  obtain ⟨hscore, hversion, hyear⟩ := h c hc
  refine ⟨⟨hscore, fun t ht => Timestamp.isDayInRange_of_year (hyear t ht)⟩, fun k hk => ?_⟩
  rcases hk.2 with hfield | htyped
  · exact Criterion.testsAlike_of_field hfield hscore hversion
  · exact Criterion.testsAlike_of_comparesTyped htyped hyear

theorem documents_of_keeps_singleton {c : Customer} (h : r.Keeps [c]) :
    ∃ d, documentOf c = .ok d ∧ r.documents = [d] := by
  obtain ⟨d, rest, hd, hrest, heq⟩ := List.forall₂_cons_left_iff.mp h
  rw [List.forall₂_nil_left_iff.mp hrest] at heq
  exact ⟨d, hd, heq⟩

/-- The number of all customers shows already that `c` cannot be read. -/
theorem isFinite_of_strategyIsInvisible {c : Customer} (hkeeps : r.Keeps [c])
    (h : r.StrategyIsInvisible vocabulary) : c.state.score.isFinite = true := by
  obtain ⟨d, hd, hdocuments⟩ := documents_of_keeps_singleton hkeeps
  cases hscore : c.state.score.isFinite with
  | true => rfl
  | false =>
    exfalso
    obtain ⟨e, he⟩ := read_documentOf_of_not_isFinite hd hscore
    have hcount := (h (.const true) (.const true) rfl nofun "").count
    rw [count_of_filter rfl, count_of_not_filter (Specification.toFilter?_and_predicate _ _ _),
      DocumentRepository.find, Specification.toFilter?_and_predicate, hdocuments] at hcount
    simp only [readAll, he] at hcount
    cases hcount

/-- A criterion `k` that does not test alike shows in what it finds. -/
theorem testsAlike_of_strategyIsInvisible {c : Customer} (hkeeps : r.Keeps [c]) (hc : c.IsReadable)
    (h : r.StrategyIsInvisible vocabulary) {k : Criterion} (hk : vocabulary k) (hvalid : k.IsValid)
    (hfield : k.field ∈ fieldNames) : k.TestsAlike c := by
  obtain ⟨d, hd, hdocuments⟩ := documents_of_keeps_singleton hkeeps
  have hread := read_documentOf hd hc
  have hleaves : ∀ l ∈ (Formula.leaf k).leaves, vocabulary l := by
    intro l hl
    rw [List.mem_singleton.mp hl]
    exact hk
  have hfind := (h (.leaf (.criterion k hvalid)) (.leaf k) rfl hleaves "").find
  have hall : readAll [d] = .ok [c.clearEvents] := by
    simp only [readAll, hread]
    rfl
  rw [find_of_filter rfl, find_of_not_filter (Specification.toFilter?_and_predicate _ _ _)
      (hdocuments ▸ hall), Specification.select_and_true, hdocuments] at hfind
  rw [← evaluate_documentOf_iff hd hfield]
  simp only [Filter.select, Specification.select, Formula.select, Formula.eval,
    SpecificationLeaf.test] at hfind
  generalize k.evaluate d = v at hfind ⊢
  generalize k.evaluate (Aggregate.clearEvents c) = w at hfind ⊢
  rcases v with e | _ | _
  · rcases w with e' | _ | _ <;> cases hfind
    rfl
  · rcases w with e' | _ | _ <;> cases hfind
    rfl
  · replace hfind := hall.symm.trans hfind
    rcases w with e' | _ | _ <;> cases hfind
    rfl

/-- The exact condition under which the answers of a repository do not show that specifications
without predicates are tested on documents. In every reachable `r` it is enough that the customers
can be read and that each criterion in the `vocabulary` tests their fields and what the documents
have of them alike. And each customer for which that fails is kept by a repository whose answers
show it. -/
theorem strategyIsInvisible_iff_testsAlike {vocabulary : Criterion → Prop}
    (hvocabulary : ∀ k, vocabulary k → k.IsValid ∧ k.field ∈ fieldNames) :
    (∀ r : DocumentRepository CustomerProfile CustomerEvent, Reachable r →
      (∃ cs, r.Keeps cs) ∧
      ∀ cs : List Customer, r.Keeps cs → (∀ c ∈ cs, c.IsReadable ∧ ∀ k, vocabulary k → k.TestsAlike c) →
        r.StrategyIsInvisible vocabulary) ∧
    ∀ c : Customer, Note.isConfidential c.state.note = false → c.version ≠ 0 →
      (∀ t, c.state.joinedAt = some t → Timestamp.isDayInRange t.day = true) →
      ∃ r, Reachable r ∧ r.Keeps [c] ∧
        (r.StrategyIsInvisible vocabulary ↔
          c.state.score.isFinite = true ∧ ∀ k, vocabulary k → k.TestsAlike c) := by
  have hfields : ∀ k, vocabulary k → k.field ∈ fieldNames := fun k hk => (hvocabulary k hk).2
  refine ⟨fun r hr => ⟨exists_keeps hr, fun cs hkeeps h =>
    strategyIsInvisible_of_testsAlike hfields hkeeps h⟩, ?_⟩
  intro c hnote hversion hjoined
  obtain ⟨r, hr, hkeeps⟩ := exists_reachable_keeps hnote hversion
  refine ⟨r, hr, hkeeps, fun h => ?_, fun ⟨hscore, halike⟩ => ?_⟩
  · have hscore := isFinite_of_strategyIsInvisible hkeeps h
    refine ⟨hscore, fun k hk => ?_⟩
    obtain ⟨hvalid, hfield⟩ := hvocabulary k hk
    exact testsAlike_of_strategyIsInvisible hkeeps ⟨hscore, hjoined⟩ h hk hvalid hfield
  · refine strategyIsInvisible_of_testsAlike hfields hkeeps fun c' hc' => ?_
    rw [List.mem_singleton.mp hc']
    exact ⟨⟨hscore, hjoined⟩, halike⟩

/-! ## An identifier in capital letters -/

/-- A customer about whom nothing is known. -/
def unknown : Customer :=
  ⟨⟨⟨0x018f3c2a7b1c7def8abc0123456789ab, by decide⟩⟩, 1, .blank, .empty⟩

/-- The identifier of the customer is the given one, which is written in capital letters. -/
def inCapitals : Criterion :=
  .binary .eq "id" (.text "018F3C2A-7B1C-7DEF-8ABC-0123456789AB")

theorem inCapitals_isValid : inCapitals.IsValid ∧ inCapitals.field ∈ fieldNames :=
  ⟨rfl, by decide⟩

theorem not_testsAlike_inCapitals : ¬ inCapitals.TestsAlike unknown := by
  rw [inCapitals, Criterion.testsAlike_id_eq_text_iff]
  decide +kernel

/-- The identifier is read in any letters where customers are, and not where documents are. -/
theorem strategyIsInvisible_iff_testsAlike_unknown :
    ∃ r, Reachable r ∧ r.Keeps [unknown] ∧ ¬ r.StrategyIsInvisible (· = inCapitals) := by
  have hvocabulary : ∀ k, k = inCapitals → k.IsValid ∧ k.field ∈ fieldNames := by
    rintro k rfl
    exact inCapitals_isValid
  have hvisible := (strategyIsInvisible_iff_testsAlike hvocabulary).2
  obtain ⟨r, hr, hkeeps, h⟩ := hvisible unknown (by decide) (by decide) nofun
  exact ⟨r, hr, hkeeps, fun hinvisible => not_testsAlike_inCapitals ((h.mp hinvisible).2 _ rfl)⟩

/-- The answers can show where a specification was tested. -/
theorem exists_not_strategyIsInvisible :
    ¬ ∀ r : DocumentRepository CustomerProfile CustomerEvent, Reachable r →
      r.StrategyIsInvisible fun k => k.field ∈ fieldNames := by
  intro hall
  obtain ⟨r, hr, hkeeps⟩ := exists_reachable_keeps (c := unknown) (by decide) (by decide)
  have hreadable : unknown.IsReadable := ⟨by decide, nofun⟩
  obtain ⟨hvalid, hfield⟩ := inCapitals_isValid
  exact not_testsAlike_inCapitals
    (testsAlike_of_strategyIsInvisible hkeeps hreadable (hall r hr) hfield hvalid hfield)

end Customer

end Quarry
