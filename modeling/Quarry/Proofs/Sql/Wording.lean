import Quarry.Proofs.Sql.Fields
import Quarry.Proofs.Sql.Placeholders
import Quarry.Proofs.Text.Search

/-!
# The wording of statements

The text of a statement is cut at its quotes. The pieces between a quote and the next one are names
that the mapping was given for the table, the key and the fields of the query, and each of them is
an identifier. The other pieces are made of the words that every statement may have and of the
placeholders (`wording_of_statement`). No name contains a quote and no word does, so every piece can
be told from its place.

A word ends where a break does, so that the words of two fragments next to each other are the words
of the one and those of the other needs a break between them (`AreLegible`).
-/

namespace Quarry.Sql

/-! ## Words -/

/-- Whether `c` stands between two words: a blank, a parenthesis, a comma or a full stop. -/
def isBreak (c : Char) : Bool :=
  [' ', '(', ')', ',', '.'].contains c

/-- The words of `cs`: what remains of it between its breaks, without the empty pieces. -/
def wordsOf (cs : List Char) : List String :=
  ((cs.splitOnP isBreak).filter fun word => !word.isEmpty).map String.ofList

/-- The keywords and functions that a statement may be worded with. -/
def keywords : List String :=
  ["SELECT", "COUNT", "FROM", "WHERE", "TRUE", "FALSE", "IS", "NOT", "NULL", "COALESCE", "ANY",
    "IN", "AND", "OR", "strpos", "starts_with", "ORDER", "BY", "ASC", "DESC", "NULLS", "FIRST",
    "LAST", "LIMIT", "OFFSET"]

/-- The operators, and the `0` that a `strpos` is compared with. -/
def operators : List String :=
  ["*", "=", "<>", "<", "<=", ">", ">=", "0"]

/-- Whether `word` is one of `keywords` or of `operators`. -/
def isBuiltIn (word : String) : Bool :=
  keywords.contains word || operators.contains word

/-- A break `c` separates words: those of `as` come first, then those of `bs`. -/
theorem wordsOf_append_cons {c : Char} (hc : isBreak c = true) (as bs : List Char) :
    wordsOf (as ++ c :: bs) = wordsOf as ++ wordsOf bs := by
  unfold wordsOf
  rw [List.splitOnP_append_cons as bs hc, List.filter_append, List.map_append]

theorem wordsOf_nil : wordsOf [] = [] := rfl

theorem wordsOf_of_no_break {cs : List Char} (hne : cs ≠ []) (h : ∀ c ∈ cs, isBreak c = false) :
    wordsOf cs = [String.ofList cs] := by
  unfold wordsOf
  rw [List.splitOnP_eq_singleton h]
  simp [hne]

/-- No word of `cs` goes on after it: `cs` is empty or has a break at its end. -/
def EndsApart (cs : List Char) : Prop :=
  ∀ c ∈ cs.getLast?, isBreak c = true

/-- No word goes on into `cs`: `cs` is empty or has a break at its head. -/
def StartsApart (cs : List Char) : Prop :=
  ∀ c ∈ cs.head?, isBreak c = true

theorem endsApart_nil : EndsApart [] := by
  intro c hc
  cases hc

/-- If no word runs from `as` into `bs`, the words of `as ++ bs` are those of both. -/
theorem wordsOf_append {as bs : List Char} (h : EndsApart as ∨ StartsApart bs) :
    wordsOf (as ++ bs) = wordsOf as ++ wordsOf bs := by
  rcases h with hlast | hfirst
  · cases as using List.reverseRecOn with
    | nil => rfl
    | append_singleton as c =>
      have hc : isBreak c = true := hlast c (by simp)
      rw [List.append_assoc, List.singleton_append, wordsOf_append_cons hc,
        wordsOf_append_cons hc, wordsOf_nil, List.append_nil]
  · cases bs with
    | nil => simp [wordsOf_nil]
    | cons c bs =>
      have hc : isBreak c = true := hfirst c rfl
      have hbs : wordsOf (c :: bs) = wordsOf bs := wordsOf_append_cons hc [] bs
      rw [wordsOf_append_cons hc, hbs]

/-- A word that every statement may have: a built-in one, or a placeholder from `$1` to the number
of `arguments`. -/
def IsFixedWord (arguments : Nat) (word : String) : Prop :=
  isBuiltIn word = true ∨ ∃ k, 1 ≤ k ∧ k ≤ arguments ∧ word = numbered k

/-- All words of `cs` are fixed ones. -/
def IsFixedText (arguments : Nat) (cs : List Char) : Prop :=
  ∀ word ∈ wordsOf cs, IsFixedWord arguments word

theorem isFixedText_nil (arguments : Nat) : IsFixedText arguments [] := by
  intro word hword
  cases hword

theorem IsFixedText.append {arguments : Nat} {as bs : List Char} (has : IsFixedText arguments as)
    (hbs : IsFixedText arguments bs) (h : EndsApart as ∨ StartsApart bs) :
    IsFixedText arguments (as ++ bs) := by
  intro word hword
  rw [wordsOf_append h, List.mem_append] at hword
  rcases hword with hword | hword
  · exact has word hword
  · exact hbs word hword

theorem isBreak_of_isDigit {c : Char} (h : c.isDigit = true) : isBreak c = false := by
  by_contra hbreak
  rw [Bool.not_eq_false, isBreak, List.contains_iff_mem] at hbreak
  simp only [List.mem_cons, List.not_mem_nil, or_false] at hbreak
  rcases hbreak with rfl | rfl | rfl | rfl | rfl <;> cases h

/-- A placeholder of one of the `arguments` is fixed text. -/
theorem isFixedText_numbered {arguments n : Nat} (hn : 1 ≤ n) (hle : n ≤ arguments) :
    IsFixedText arguments (numbered n).toList := by
  have hbreak : ∀ c ∈ (numbered n).toList, isBreak c = false := by
    intro c hc
    rw [toList_numbered, List.mem_cons] at hc
    rcases hc with rfl | hc
    · rfl
    · exact isBreak_of_isDigit (isDigit_of_mem_toDigits hc)
  have hne : (numbered n).toList ≠ [] := by
    rw [toList_numbered]
    exact List.cons_ne_nil _ _
  intro word hword
  rw [wordsOf_of_no_break hne hbreak, List.mem_singleton, String.ofList_toList] at hword
  exact Or.inr ⟨n, hn, hle, hword⟩

/-! ## Pieces in turn -/

/-- The elements have `P` and `Q` in turn; the first and the last one have `P`. -/
inductive Alternates {α : Type} (P Q : α → Prop) : List α → Prop
  | last {a : α} (outer : P a) : Alternates P Q [a]
  | cons {a b : α} {rest : List α} (outer : P a) (inner : Q b) (further : Alternates P Q rest) :
    Alternates P Q (a :: b :: rest)

theorem Alternates.map {α β : Type} {P Q : α → Prop} {P' Q' : β → Prop} {f : α → β} {as : List α}
    (h : Alternates P Q as) (hP : ∀ a, P a → P' (f a)) (hQ : ∀ a, Q a → Q' (f a)) :
    Alternates P' Q' (as.map f) := by
  induction h with
  | last outer => exact .last (hP _ outer)
  | cons outer inner _ ih => exact .cons (hP _ outer) (hQ _ inner) ih

/-! ## Fragments -/

namespace Fragment

/-- A fragment of words is fixed if it has built-in words only and no quote; a `name` and a
`placeholder` are so in any case. -/
def isFixed : Fragment → Bool
  | words s => !s.toList.contains '"' && (wordsOf s.toList).all isBuiltIn
  | name _ => true
  | placeholder _ => true

/-- Whether no word before the fragment can go on in it. It can in a `placeholder`, which has no
quotes. -/
def startsApart : Fragment → Bool
  | words s => s.toList.head?.any isBreak
  | name _ => true
  | placeholder _ => false

/-- Whether no word of the fragment can go on after it. -/
def endsApart : Fragment → Bool
  | words s => s.toList.getLast?.any isBreak
  | name _ => true
  | placeholder _ => false

end Fragment

/-- All fragments are fixed, and between two neighbours there is a break by `endsApart` or
`startsApart`. -/
def AreLegible : List Fragment → Prop
  | [] => True
  | f :: fs =>
    f.isFixed = true ∧ (fs.head?.all fun g => f.endsApart || g.startsApart) = true ∧ AreLegible fs

theorem AreLegible.cons {f : Fragment} {fs : List Fragment} (hfixed : f.isFixed = true)
    (hends : f.endsApart = true) (h : AreLegible fs) : AreLegible (f :: fs) := by
  refine ⟨hfixed, ?_, h⟩
  simp [hends]

/-- Legible fragments `fs` and `f :: gs` remain legible one after the other if `f` starts apart. -/
theorem AreLegible.append_cons {f : Fragment} {fs gs : List Fragment} (h : AreLegible fs)
    (hstarts : f.startsApart = true) (hf : AreLegible (f :: gs)) : AreLegible (fs ++ f :: gs) := by
  induction fs with
  | nil => exact hf
  | cons g fs ih =>
    obtain ⟨hfixed, hapart, hrest⟩ := h
    refine ⟨hfixed, ?_, ih hrest⟩
    cases fs with
    | nil => simp [hstarts]
    | cons g' fs => exact hapart

/-- Fixed fragments are legible with a fixed `separator` between them that starts and ends apart. -/
theorem areLegible_intersperse {fs : List Fragment} {separator : Fragment}
    (hfixed : ∀ f ∈ fs, f.isFixed = true) (hseparator : separator.isFixed = true)
    (hstarts : separator.startsApart = true) (hends : separator.endsApart = true) :
    AreLegible (fs.intersperse separator) := by
  induction fs with
  | nil => trivial
  | cons f rest ih =>
    obtain ⟨hf, hrest⟩ := List.forall_mem_cons.mp hfixed
    cases rest with
    | nil => exact ⟨hf, rfl, trivial⟩
    | cons g rest =>
      have hapart : (f.endsApart || separator.startsApart) = true := by simp [hstarts]
      exact ⟨hf, hapart, (ih hrest).cons hseparator hends⟩

theorem areLegible_placeholders (as : List Argument) : AreLegible (placeholders as) := by
  rw [placeholders_eq_intersperse]
  exact areLegible_intersperse (List.forall_mem_map.mpr fun _ _ => rfl) rfl rfl rfl

theorem areLegible_nameFragments (is : List Identifier) : AreLegible (nameFragments is) := by
  rw [nameFragments_eq_intersperse]
  exact areLegible_intersperse (List.forall_mem_map.mpr fun _ _ => rfl) rfl rfl rfl

/-- A condition is written in legible fragments. -/
theorem Condition.areLegible_fragments (c : Condition) : AreLegible c.fragments := by
  have hclose : AreLegible [.words ")"] := ⟨rfl, rfl, trivial⟩
  induction c with
  | const b => cases b <;> exact ⟨rfl, rfl, trivial⟩
  | isNull c => exact ⟨rfl, rfl, rfl, rfl, trivial⟩
  | isNotNull c => exact ⟨rfl, rfl, rfl, rfl, trivial⟩
  | compare c op a => cases op <;> exact ⟨rfl, rfl, rfl, rfl, rfl, rfl, trivial⟩
  | anyElement c a => exact ⟨rfl, rfl, rfl, rfl, rfl, rfl, hclose⟩
  | containsText c s => exact ⟨rfl, rfl, rfl, rfl, rfl, rfl, rfl, rfl, rfl, rfl, trivial⟩
  | startsWith c s => exact ⟨rfl, rfl, rfl, rfl, rfl, rfl, rfl, rfl, hclose⟩
  | among c as =>
    have hcandidates := (areLegible_placeholders as).append_cons rfl hclose
    exact .cons rfl rfl (.cons rfl rfl hcandidates)
  | orFalse c ih =>
    have hdefault : AreLegible [.words ", FALSE)"] := ⟨rfl, rfl, trivial⟩
    exact (ih.append_cons rfl hdefault).cons rfl rfl
  | and a b iha ihb =>
    have hright : AreLegible (.words " AND " :: b.fragments) := ihb.cons rfl rfl
    have hboth := (iha.append_cons rfl hright).append_cons rfl hclose
    exact hboth.cons rfl rfl
  | or a b iha ihb =>
    have hright : AreLegible (.words " OR " :: b.fragments) := ihb.cons rfl rfl
    have hboth := (iha.append_cons rfl hright).append_cons rfl hclose
    exact hboth.cons rfl rfl
  | not a ih => exact (ih.append_cons rfl hclose).cons rfl rfl

/-- Legible fragments `fs` remain so with a sorting clause and a limiting clause after them. -/
theorem AreLegible.append_clauses {fs : List Fragment} (h : AreLegible fs)
    (order : Option RowOrder) (key : Identifier) (limit : Option RowLimit) :
    AreLegible (fs ++ orderFragments order key ++ limitFragments limit) := by
  have horder : AreLegible (fs ++ orderFragments order key) := by
    cases order with
    | none => exact h.append_cons rfl ⟨rfl, rfl, rfl, rfl, rfl, rfl, trivial⟩
    | some o =>
      have hkey : AreLegible [.name key, .words " ASC"] := ⟨rfl, rfl, rfl, rfl, trivial⟩
      have hdirection : AreLegible (.words (if o.descending then " DESC NULLS LAST, "
          else " ASC NULLS FIRST, ") :: [.name key, .words " ASC"]) := by
        split
        · exact hkey.cons rfl rfl
        · exact hkey.cons rfl rfl
      have hcolumn : AreLegible (.name o.column :: _) := hdirection.cons rfl rfl
      exact h.append_cons rfl (hcolumn.cons rfl rfl)
  cases limit with
  | none =>
    show AreLegible (fs ++ orderFragments order key ++ [])
    rw [List.append_nil]
    exact horder
  | some l => exact horder.append_cons rfl ⟨rfl, rfl, rfl, rfl, rfl, rfl, rfl, rfl, trivial⟩

/-- A statement is written in legible fragments. -/
theorem Statement.areLegible_fragments (s : Statement) : AreLegible s.fragments := by
  have hfrom (head : Fragment) (hfixed : head.isFixed = true) (hends : head.endsApart = true)
      (table : TableName) (c : Condition) :
      AreLegible (head :: nameFragments table.segments ++ .words " WHERE " :: c.fragments) := by
    have hwhere : AreLegible (.words " WHERE " :: c.fragments) := c.areLegible_fragments.cons rfl rfl
    have htable := (areLegible_nameFragments table.segments).append_cons rfl hwhere
    exact htable.cons hfixed hends
  cases s with
  | select table c order key limit =>
    exact (hfrom (.words "SELECT * FROM ") rfl rfl table c).append_clauses order key limit
  | count table c => exact hfrom (.words "SELECT COUNT(*) FROM ") rfl rfl table c

/-! ## Pieces between quotes -/

namespace Fragment

variable {s : String}

/-- A fixed fragment of words `s` has no quote, and its text is fixed whatever the number of
arguments. -/
theorem isFixedText_of_isFixed (h : (words s).isFixed = true) :
    '"' ∉ s.toList ∧ ∀ arguments, IsFixedText arguments s.toList := by
  obtain ⟨hquote, hwords⟩ := (Bool.and_eq_true _ _).mp h
  constructor
  · simpa using hquote
  · intro arguments word hword
    exact Or.inl (List.all_eq_true.mp hwords word hword)

theorem startsApart_of_words (h : (words s).startsApart = true) : StartsApart s.toList := by
  intro c hc
  rw [startsApart, Option.mem_def.mp hc] at h
  exact h

theorem endsApart_of_words (h : (words s).endsApart = true) (before : List Char) :
    EndsApart (before ++ s.toList) := by
  intro c hc
  rw [endsApart] at h
  cases hlast : s.toList.getLast? with
  | none =>
    rw [hlast] at h
    cases h
  | some d =>
    rw [hlast] at h
    rw [List.getLast?_append, hlast] at hc
    cases hc
    exact h

end Fragment

/-- An identifier has no quote, so a quoted name ends where it should. -/
theorem Identifier.quote_not_mem (i : Identifier) : '"' ∉ i.text.toList := by
  intro hmem
  cases i.isIdentifierPart_of_mem hmem

theorem quote_not_mem_numbered (n : Nat) : '"' ∉ (numbered n).toList := by
  rw [toList_numbered, List.mem_cons]
  rintro (hmem | hmem)
  · cases hmem
  · cases isDigit_of_mem_toDigits hmem

/-- Cut at its quotes, the text of legible fragments `fs` after some fixed text `before` has fixed
text and names in turn; each name has `Q` if the identifiers of `fs` do. -/
theorem AreLegible.alternates {fs : List Fragment} (h : AreLegible fs) {Q : List Char → Prop}
    (hQ : ∀ i ∈ fs.filterMap Fragment.name?, Q i.text.toList) {arguments n : Nat} (hn : 1 ≤ n)
    (hcount : n + (fs.filterMap Fragment.argument?).length ≤ arguments + 1) {before : List Char}
    (hquote : '"' ∉ before) (hbefore : IsFixedText arguments before)
    (hapart : EndsApart before ∨ fs.head?.all Fragment.startsApart = true) :
    Alternates (IsFixedText arguments) Q
      (Text.splitOn '"' (before ++ (textFrom n fs).toList)) := by
  induction fs generalizing n before with
  | nil =>
    have htext : before ++ (textFrom n []).toList = before := List.append_nil _
    rw [htext, Text.splitOn_of_not_mem hquote]
    exact .last hbefore
  | cons f fs ih =>
    obtain ⟨hfixed, hnext, hrest⟩ := h
    cases f with
    | words s =>
      obtain ⟨hs, hwords⟩ := Fragment.isFixedText_of_isFixed hfixed
      have hstarts : EndsApart before ∨ StartsApart s.toList :=
        hapart.imp_right Fragment.startsApart_of_words
      have hends : EndsApart (before ++ s.toList) ∨ fs.head?.all Fragment.startsApart = true := by
        cases hlast : (Fragment.words s).endsApart with
        | true => exact Or.inl (Fragment.endsApart_of_words hlast before)
        | false =>
          rw [hlast] at hnext
          exact Or.inr hnext
      have hquotes : '"' ∉ before ++ s.toList := by
        rw [List.mem_append, not_or]
        exact ⟨hquote, hs⟩
      rw [textFrom, String.toList_append, ← List.append_assoc]
      exact ih hrest hQ hn hcount hquotes (hbefore.append (hwords arguments) hstarts) hends
    | name i =>
      have hnames := List.forall_mem_cons.mp hQ
      have hfurther := ih hrest hnames.2 hn hcount List.not_mem_nil
        (isFixedText_nil arguments) (Or.inl endsApart_nil)
      have htext : before ++ (textFrom n (.name i :: fs)).toList =
          before ++ '"' :: (i.text.toList ++ '"' :: ([] ++ (textFrom n fs).toList)) := by
        simp [textFrom]
      rw [htext, Text.splitOn_append_cons, Text.splitOn_append_cons,
        Text.splitOn_of_not_mem hquote, Text.splitOn_of_not_mem i.quote_not_mem]
      exact .cons hbefore hnames.1 hfurther
    | placeholder a =>
      have hends : EndsApart before := by
        rcases hapart with hends | hstarts
        · exact hends
        · cases hstarts
      have hcount' : n + ((fs.filterMap Fragment.argument?).length + 1) ≤ arguments + 1 := hcount
      have hnumber : IsFixedText arguments (numbered n).toList :=
        isFixedText_numbered hn (by omega)
      have hquotes : '"' ∉ before ++ (numbered n).toList := by
        rw [List.mem_append, not_or]
        exact ⟨hquote, quote_not_mem_numbered n⟩
      have htext : textFrom n (.placeholder a :: fs) = numbered n ++ textFrom (n + 1) fs := by
        rw [textFrom, numbered]
      rw [htext, String.toList_append, ← List.append_assoc]
      exact ih hrest hQ (by omega) (by omega) hquotes (hbefore.append hnumber (Or.inl hends))
        (Or.inr hnext)

/-! ## Names -/

/-- An ASCII letter or an underscore. -/
def IsLetter (c : Char) : Prop :=
  ('A' ≤ c ∧ c ≤ 'Z') ∨ ('a' ≤ c ∧ c ≤ 'z') ∨ c = '_'

/-- The `name` is a letter or underscore, and then letters, digits and underscores. -/
def IsPlainName (name : String) : Prop :=
  ∃ c cs, name.toList = c :: cs ∧ IsLetter c ∧ ∀ d ∈ cs, IsLetter d ∨ ('0' ≤ d ∧ d ≤ '9')

theorem isLetter_of_isAlpha {c : Char} (h : c.isAlpha = true) : IsLetter c := by
  rcases (Bool.or_eq_true _ _).mp h with hupper | hlower
  · exact Or.inl (of_decide_eq_true hupper)
  · obtain ⟨hfrom, hto⟩ := (Bool.and_eq_true _ _).mp hlower
    exact Or.inr (Or.inl ⟨of_decide_eq_true hfrom, of_decide_eq_true hto⟩)

theorem Identifier.isPlainName (i : Identifier) : IsPlainName i.text := by
  have hvalid := i.valid
  cases hchars : i.text.toList with
  | nil =>
    rw [hchars] at hvalid
    cases hvalid
  | cons c cs =>
    rw [hchars] at hvalid
    obtain ⟨hfirst, hrest⟩ := (Bool.and_eq_true _ _).mp hvalid
    refine ⟨c, cs, hchars, ?_, ?_⟩
    · rcases (Bool.or_eq_true _ _).mp hfirst with hletter | hunderscore
      · exact isLetter_of_isAlpha hletter
      · exact Or.inr (Or.inr (of_decide_eq_true hunderscore))
    · intro d hd
      have hpart : isIdentifierPart d = true := List.all_eq_true.mp hrest d hd
      rcases (Bool.or_eq_true _ _).mp hpart with hword | hunderscore
      · rcases (Bool.or_eq_true _ _).mp hword with hletter | hdigit
        · exact Or.inl (isLetter_of_isAlpha hletter)
        · obtain ⟨hfrom, hto⟩ := (Bool.and_eq_true _ _).mp hdigit
          exact Or.inr ⟨of_decide_eq_true hfrom, of_decide_eq_true hto⟩
      · exact Or.inl (Or.inr (Or.inr (of_decide_eq_true hunderscore)))

/-- The `name` was given for the `table`, for its key or for a field that `q` is about. -/
def IsGivenName (table : String) (steps : List MappingStep) (q : Query) (name : String) : Prop :=
  name ∈ Text.split '.' table ∨ name = keyColumn steps ∨
    ∃ field ∈ q.fields, fieldColumn? steps field = some name

/-- The names in a statement `s` of the query `q` are those that the mapping `m` was given. -/
theorem isGivenName_of_mem {table : String} {steps : List MappingStep} {m : TableMapping}
    (hm : m.IsNamed table steps) {q : Query} {s : Statement} (hs : q.statement m = .ok s)
    {i : Identifier} (hi : i ∈ s.fragments.filterMap Fragment.name?) :
    IsGivenName table steps q i.text := by
  rcases q.name_cases hs hi with hsegment | rfl | ⟨field, hfield, column, hcolumn, rfl⟩
  · left
    rw [← hm.segments]
    exact List.mem_map_of_mem hsegment
  · exact Or.inr (Or.inl hm.key)
  · right
    right
    refine ⟨field, hfield, ?_⟩
    rw [← hm.column, hcolumn]
    rfl

/-- The text `s` has fixed words only. -/
def IsWording (arguments : Nat) (s : String) : Prop :=
  IsFixedText arguments s.toList

/-- Let `m` be built by any `steps` and `s` be the statement of any query `q`. Cut at its quotes,
the text of `s` is fixed wording and names in turn, and every name is a plain one that the mapping
was given. Another query `q'` has the same statement wherever its fields have the same columns. -/
theorem wording_of_statement {table : String} {steps : List MappingStep} {m : TableMapping}
    (hm : TableMapping.build table steps = .ok m) {q : Query} {s : Statement}
    (hs : q.statement m = .ok s) :
    Alternates (IsWording s.arguments.length)
        (fun name => IsPlainName name ∧ IsGivenName table steps q name) (Text.split '"' s.text) ∧
      ∀ m' q', m'.table = m.table → m'.key = m.key → q.SameColumns m m' q' →
        q'.statement m' = .ok s := by
  constructor
  · have hnames : ∀ i ∈ s.fragments.filterMap Fragment.name?,
        IsPlainName (String.ofList i.text.toList) ∧
          IsGivenName table steps q (String.ofList i.text.toList) := by
      intro i hi
      rw [String.ofList_toList]
      exact ⟨i.isPlainName, isGivenName_of_mem (TableMapping.build_isNamed hm) hs hi⟩
    have hcount : 1 + s.arguments.length ≤ s.arguments.length + 1 := by omega
    have hpieces : Alternates (IsFixedText s.arguments.length)
        (fun cs => IsPlainName (String.ofList cs) ∧ IsGivenName table steps q (String.ofList cs))
        (Text.splitOn '"' s.text.toList) :=
      s.areLegible_fragments.alternates hnames (Nat.le_refl 1) hcount List.not_mem_nil
        (isFixedText_nil _) (Or.inl endsApart_nil)
    refine hpieces.map ?_ fun _ hname => hname
    intro cs hcs
    show IsFixedText _ (String.ofList cs).toList
    rw [String.toList_ofList]
    exact hcs
  · intro m' q' htable hkey hcolumns
    exact hcolumns.yields htable hkey s hs

/-- A field with a quote in its name, a qualified table, and a key and a column that are named
twice. A field with another name and the same column makes no difference. -/
theorem wording_of_statement_quote :
    let name : Column := ⟨⟨"full_name", by decide⟩, .scalar⟩
    let tags : Column := ⟨⟨"tags", by decide⟩, .array⟩
    let steps : List MappingStep := [.key "uid", .column "\"; --" "first_name" .scalar,
      .column "tags" "tags" .array, .column "\"; --" "full_name" .scalar, .key "person_id"]
    let m : TableMapping := ⟨⟨[⟨"sales", by decide⟩, ⟨"people", by decide⟩]⟩,
      ⟨"person_id", by decide⟩, (SortedMap.empty.insert "tags" tags).insert "\"; --" name⟩
    let query (field : String) : Query := .select
      (.and (.leaf (.startingWith field "A")) (.not (.leaf (.binary .contains "tags" (.text "x")))))
      (some ⟨field, .descending⟩) (some ⟨40, 20⟩)
    let s : Statement := .select m.table
      (.and (.orFalse (.startsWith name.name "A"))
        (.not (.orFalse (.anyElement tags.name (.text "x")))))
      (some ⟨name.name, true⟩) m.key (some ⟨20, 40⟩)
    let m' : TableMapping := { m with columns := m.columns.insert "name" name }
    (TableMapping.build "sales.people" steps = .ok m ∧ (query "\"; --").statement m = .ok s) ∧
      Alternates (IsWording 4)
        (fun name => IsPlainName name ∧ IsGivenName "sales.people" steps (query "\"; --") name)
        (Text.split '"' s.text) ∧
      (query "name").statement m' = .ok s := by
  intro name tags steps m query s m'
  have hm : TableMapping.build "sales.people" steps = .ok m := rfl
  have hs : (query "\"; --").statement m = .ok s := rfl
  have hcolumns : (query "\"; --").SameColumns m m' (query "name") :=
    .select _ (.and (.leaf ⟨rfl, rfl, rfl, rfl⟩) (.not (.leaf ⟨rfl, rfl, rfl, rfl⟩)))
      (.some ⟨rfl, rfl⟩)
  obtain ⟨hpieces, hsame⟩ := wording_of_statement hm hs
  exact ⟨⟨hm, hs⟩, hpieces, hsame m' (query "name") rfl rfl hcolumns⟩

end Quarry.Sql
