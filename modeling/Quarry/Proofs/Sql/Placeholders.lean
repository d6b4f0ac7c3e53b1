import Quarry.Proofs.Criterion
import Quarry.Proofs.Sql.Meaning

/-!
# Placeholders and their arguments

A statement is sent as a text with numbered placeholders and a list of arguments, and an argument
goes to the placeholder that has its number. The placeholders of a statement are numbered from one
without a gap, from left to right, up to the number of the arguments; this is what its text shows
when it is searched for dollar signs (`Statement.placeholdersIn_text`). The arguments are the
operands of the filter from left to right and then the numbers of the range
(`arguments_of_statement`).
-/

namespace Quarry.Sql

/-! ## Writing piece by piece -/

/-- What is written of a statement so far, the `text` and the `arguments` side by side. -/
structure Draft where
  text : String
  /-- The arguments whose placeholders are in the text. -/
  arguments : List Argument

namespace Draft

/-- The draft that a statement starts from. -/
def empty : Draft := ⟨"", []⟩

/-- Adds the text `s`. -/
def push (d : Draft) (s : String) : Draft :=
  { d with text := d.text ++ s }

/-- Adds the argument `a`, and to the text its placeholder: the number of arguments so far. -/
def pushArgument (d : Draft) (a : Argument) : Draft :=
  let arguments := d.arguments ++ [a]
  ⟨d.text ++ numbered arguments.length, arguments⟩

/-- Adds a fragment, with its quotes if it is a `name` and as an argument if it is a `placeholder`.
-/
def pushFragment (d : Draft) : Fragment → Draft
  | .words s => d.push s
  | .name i => d.push (quoted i)
  | .placeholder a => d.pushArgument a

/-- Fragments that are added one by one write their text, numbered on from the arguments of `d`, and
add their arguments. -/
theorem foldl_pushFragment (d : Draft) (fs : List Fragment) :
    fs.foldl pushFragment d =
      ⟨d.text ++ textFrom (d.arguments.length + 1) fs,
        d.arguments ++ fs.filterMap Fragment.argument?⟩ := by
  induction fs generalizing d with
  | nil => simp [textFrom]
  | cons f fs ih =>
    rw [List.foldl_cons, ih]
    cases f with
    | words s => simp [pushFragment, push, textFrom, String.append_assoc]
    | name i => simp [pushFragment, push, textFrom, quoted, String.append_assoc]
    | placeholder a =>
      simp [pushFragment, pushArgument, textFrom, numbered, Fragment.argument?, String.append_assoc]

end Draft

/-- Written piece by piece, a statement comes to its `text` and its `arguments`. -/
theorem Statement.foldl_pushFragment (s : Statement) :
    s.fragments.foldl Draft.pushFragment .empty = ⟨s.text, s.arguments⟩ := by
  rw [Draft.foldl_pushFragment]
  show Draft.mk ("" ++ s.text) ([] ++ s.arguments) = _
  rw [String.empty_append, List.nil_append]

/-! ## Searching a text for placeholders -/

/-- Each dollar sign of a text with the digits that follow it, from left to right. -/
def dollarWords : List Char → List String
  | [] => []
  | c :: cs =>
    if c = '$' then ("$" ++ String.ofList (cs.takeWhile Char.isDigit)) :: dollarWords cs
    else dollarWords cs

/-- The placeholders in `s`, from left to right. -/
def placeholdersIn (s : String) : List String :=
  dollarWords s.toList

theorem dollarWords_append {cs : List Char} (h : '$' ∉ cs) (rest : List Char) :
    dollarWords (cs ++ rest) = dollarWords rest := by
  induction cs with
  | nil => rfl
  | cons c cs ih =>
    rw [List.mem_cons, not_or] at h
    rw [List.cons_append, dollarWords, if_neg (Ne.symm h.1), ih h.2]

/-- The text `cs` goes on with no digit. -/
def EndsNumber (cs : List Char) : Prop :=
  ∀ c ∈ cs.head?, c.isDigit = false

theorem takeWhile_isDigit_append {cs rest : List Char} (hcs : ∀ c ∈ cs, c.isDigit = true)
    (hrest : EndsNumber rest) : (cs ++ rest).takeWhile Char.isDigit = cs := by
  rw [List.takeWhile_append_of_pos hcs]
  cases rest with
  | nil => rw [List.takeWhile_nil, List.append_nil]
  | cons c rest =>
    have hc : c.isDigit = false := hrest c rfl
    rw [List.takeWhile_cons, hc]
    exact List.append_nil _

theorem toList_numbered (n : Nat) : (numbered n).toList = '$' :: Nat.toDigits 10 n := by
  rw [numbered, String.toList_append]
  exact congrArg ('$' :: ·) String.toList_ofList

theorem isDigit_of_mem_toDigits {n : Nat} {c : Char} (hc : c ∈ Nat.toDigits 10 n) :
    c.isDigit = true :=
  Nat.isDigit_of_mem_toDigits (by decide) (by decide) hc

/-- A placeholder is found with its number `n`, as long as no digit follows it. -/
theorem dollarWords_numbered (n : Nat) {rest : List Char} (h : EndsNumber rest) :
    dollarWords ((numbered n).toList ++ rest) = numbered n :: dollarWords rest := by
  have hdigits : ∀ c ∈ Nat.toDigits 10 n, c.isDigit = true := fun _ => isDigit_of_mem_toDigits
  have hdollar : '$' ∉ Nat.toDigits 10 n := fun hmem => Bool.noConfusion (hdigits _ hmem)
  rw [toList_numbered, List.cons_append, dollarWords, if_pos rfl,
    takeWhile_isDigit_append hdigits h, dollarWords_append hdollar]
  rfl

example : placeholdersIn "a = $1 AND b IN ($2, $13)" = ["$1", "$2", "$13"] := by decide

/-! ## Fragments -/

theorem Identifier.isIdentifierPart_of_mem (i : Identifier) {c : Char} (hc : c ∈ i.text.toList) :
    isIdentifierPart c = true := by
  have hvalid := i.valid
  cases hchars : i.text.toList with
  | nil =>
    rw [hchars] at hc
    cases hc
  | cons first rest =>
    rw [hchars] at hc hvalid
    obtain ⟨hfirst, hrest⟩ := (Bool.and_eq_true _ _).mp hvalid
    rcases List.mem_cons.mp hc with rfl | hc
    · unfold isIdentifierPart Char.isAlphanum
      rcases (Bool.or_eq_true _ _).mp hfirst with h | h
      · rw [h]
        rfl
      · rw [h, Bool.or_true]
    · exact List.all_eq_true.mp hrest c hc

theorem not_mem_quoted (i : Identifier) : '$' ∉ (quoted i).toList := by
  intro h
  rw [quoted, String.toList_append, String.toList_append, List.append_assoc] at h
  rcases List.mem_append.mp h with h | h
  · cases List.mem_singleton.mp h
  · rcases List.mem_append.mp h with h | h
    · cases i.isIdentifierPart_of_mem h
    · cases List.mem_singleton.mp h

/-- Words that neither have a dollar sign nor lengthen the number of a placeholder before them. -/
def isPlainText (s : String) : Bool :=
  match s.toList with
  | [] => false
  | c :: cs => !c.isDigit && !(c :: cs).contains '$'

theorem exists_of_isPlainText {s : String} (h : isPlainText s = true) :
    ∃ c cs, s.toList = c :: cs ∧ c.isDigit = false ∧ '$' ∉ c :: cs := by
  unfold isPlainText at h
  split at h
  · cases h
  · rename_i c cs hchars
    obtain ⟨hdigit, hdollar⟩ := (Bool.and_eq_true _ _).mp h
    rw [Bool.not_eq_true'] at hdigit hdollar
    refine ⟨c, cs, hchars, hdigit, fun hmem => ?_⟩
    rw [List.contains_iff_mem.mpr hmem] at hdollar
    cases hdollar

/-- All `words` are plain, so that what follows a placeholder does not lengthen its number. -/
def ArePlain : List Fragment → Prop
  | [] => True
  | .words s :: fs => isPlainText s = true ∧ ArePlain fs
  | .name _ :: fs => ArePlain fs
  | .placeholder _ :: fs => ArePlain fs

theorem arePlain_append {fs gs : List Fragment} :
    ArePlain (fs ++ gs) ↔ ArePlain fs ∧ ArePlain gs := by
  induction fs with
  | nil => exact Iff.of_eq (true_and _).symm
  | cons f fs ih =>
    cases f with
    | words s => exact (and_congr_right' ih).trans and_assoc.symm
    | name i => exact ih
    | placeholder a => exact ih

/-- The text of plain fragments starts with no digit, since neither do names and placeholders. -/
theorem ArePlain.endsNumber {fs : List Fragment} (h : ArePlain fs) (n : Nat) :
    EndsNumber (textFrom n fs).toList := by
  intro c hc
  cases fs with
  | nil => cases hc
  | cons f fs =>
    cases f with
    | words s =>
      obtain ⟨first, rest, hchars, hdigit, -⟩ := exists_of_isPlainText h.1
      rw [textFrom, String.toList_append, hchars] at hc
      cases hc
      exact hdigit
    | name i =>
      rw [textFrom, String.toList_append, String.toList_append, String.toList_append] at hc
      cases hc
      rfl
    | placeholder a =>
      rw [textFrom, String.toList_append, String.toList_append] at hc
      cases hc
      rfl

/-- The text of plain fragments has just the placeholders that the fragments ask for, numbered on
from `n`. -/
theorem ArePlain.placeholdersIn {fs : List Fragment} (h : ArePlain fs) (n : Nat) :
    placeholdersIn (textFrom n fs) =
      (List.range' n (fs.filterMap Fragment.argument?).length).map numbered := by
  unfold Sql.placeholdersIn
  induction fs generalizing n with
  | nil => rfl
  | cons f fs ih =>
    cases f with
    | words s =>
      obtain ⟨first, rest, hchars, -, hdollar⟩ := exists_of_isPlainText h.1
      rw [textFrom, String.toList_append, hchars, dollarWords_append hdollar, ih h.2]
      rfl
    | name i =>
      rw [textFrom, String.toList_append]
      exact (dollarWords_append (not_mem_quoted i) _).trans (ih h n)
    | placeholder a =>
      have hrest : ArePlain fs := h
      have htext : textFrom n (.placeholder a :: fs) = numbered n ++ textFrom (n + 1) fs := by
        rw [textFrom, numbered]
      rw [htext, String.toList_append, dollarWords_numbered n (hrest.endsNumber (n + 1)),
        ih hrest]
      rfl

/-! ## Statements -/

/-- Fragments that are plain each for itself are plain also with plain `words` between them. -/
theorem arePlain_intersperse {fs : List Fragment} {words : String}
    (hplain : ∀ f ∈ fs, ArePlain [f]) (hwords : isPlainText words = true) :
    ArePlain (fs.intersperse (.words words)) := by
  induction fs with
  | nil => trivial
  | cons f rest ih =>
    obtain ⟨hf, hrest⟩ := List.forall_mem_cons.mp hplain
    cases rest with
    | nil => exact hf
    | cons g rest =>
      have hrest : ArePlain (.words words :: (g :: rest).intersperse (.words words)) :=
        ⟨hwords, ih hrest⟩
      exact arePlain_append.mpr ⟨hf, hrest⟩

theorem arePlain_placeholders (as : List Argument) : ArePlain (placeholders as) := by
  rw [placeholders_eq_intersperse]
  exact arePlain_intersperse (List.forall_mem_map.mpr fun _ _ => trivial) rfl

theorem arePlain_nameFragments (is : List Identifier) : ArePlain (nameFragments is) := by
  rw [nameFragments_eq_intersperse]
  exact arePlain_intersperse (List.forall_mem_map.mpr fun _ _ => trivial) rfl

theorem Condition.arePlain_fragments (c : Condition) : ArePlain c.fragments := by
  induction c with
  | const b => cases b <;> exact ⟨rfl, trivial⟩
  | isNull c => exact ⟨rfl, trivial⟩
  | isNotNull c => exact ⟨rfl, trivial⟩
  | compare c op a => cases op <;> exact ⟨rfl, trivial⟩
  | anyElement c a => exact ⟨rfl, rfl, trivial⟩
  | containsText c s => exact ⟨rfl, rfl, rfl, trivial⟩
  | startsWith c s => exact ⟨rfl, rfl, rfl, trivial⟩
  | among c as => exact ⟨rfl, arePlain_append.mpr ⟨arePlain_placeholders as, rfl, trivial⟩⟩
  | orFalse c ih => exact ⟨rfl, arePlain_append.mpr ⟨ih, rfl, trivial⟩⟩
  | and a b iha ihb | or a b iha ihb =>
    exact arePlain_append.mpr ⟨arePlain_append.mpr ⟨⟨rfl, iha⟩, rfl, ihb⟩, rfl, trivial⟩
  | not a ih => exact ⟨rfl, arePlain_append.mpr ⟨ih, rfl, trivial⟩⟩

theorem arePlain_orderFragments (order : Option RowOrder) (key : Identifier) :
    ArePlain (orderFragments order key) := by
  cases order with
  | none => exact ⟨rfl, rfl, trivial⟩
  | some o =>
    refine ⟨rfl, ?_, rfl, trivial⟩
    split <;> rfl

theorem arePlain_limitFragments (limit : Option RowLimit) : ArePlain (limitFragments limit) := by
  cases limit with
  | none => trivial
  | some l => exact ⟨rfl, rfl, trivial⟩

namespace Statement

theorem arePlain_fragments (s : Statement) : ArePlain s.fragments := by
  have hfrom (head : String) (hhead : isPlainText head = true) (table : TableName)
      (c : Condition) : ArePlain (.words head :: nameFragments table.segments ++
        .words " WHERE " :: c.fragments) :=
    arePlain_append.mpr ⟨⟨hhead, arePlain_nameFragments _⟩, rfl, c.arePlain_fragments⟩
  cases s with
  | select table c order key limit =>
    exact arePlain_append.mpr ⟨arePlain_append.mpr ⟨hfrom _ rfl table c,
      arePlain_orderFragments order key⟩, arePlain_limitFragments limit⟩
  | count table c => exact hfrom _ rfl table c

/-- The placeholders in the text of `s` are numbered from one to the number of its arguments. -/
theorem placeholdersIn_text (s : Statement) :
    placeholdersIn s.text = (List.range' 1 s.arguments.length).map numbered :=
  s.arePlain_fragments.placeholdersIn 1

end Statement

/-! ## Operands -/

/-- The value that an argument carries. -/
def Argument.value : Argument → Value
  | .bool b => .bool b
  | .int n => .int n
  | .float x => .float x
  | .uuid u => .uuid u
  | .timestamp t => .timestamp t
  | .text s => .text s

/-- An argument that is made of `v` carries `v`. -/
theorem value_of_argument {field : String} {v : Value} {a : Argument}
    (h : argument field v = .ok a) : a.value = v := by
  cases v with
  | null => cases h
  | list items => cases h
  | _ =>
    cases h
    rfl

theorem value_of_mapM_argument {field : String} {vs : List Value} {as : List Argument}
    (h : vs.mapM (argument field) = .ok as) : as.map Argument.value = vs :=
  map_of_mapM_eq_ok (fun _ _ => value_of_argument) h

/-- The operands that `c` binds: the candidates if it has a list of them, otherwise its operand if
it has one, and never null. -/
def boundOperands (c : Criterion) : List Value :=
  (match c.operand with
    | none => []
    | some (.list candidates) => candidates
    | some v => [v]).filter fun v => !v.isNull

section Operands

variable {column : Identifier} {field : String} {condition : Condition}

theorem boundOperands_of_argument {op : Operator} {v : Value} {a : Argument}
    (h : argument field v = .ok a) : boundOperands ⟨field, op, some v⟩ = [a.value] := by
  cases v with
  | null => cases h
  | list items => cases h
  | _ =>
    cases h
    rfl

theorem boundOperands_of_isNull {op : Operator} {v : Value} (h : v.isNull = true) :
    boundOperands ⟨field, op, some v⟩ = [] := by
  cases v with
  | null => rfl
  | _ => cases h

theorem arguments_compareCondition {comparison : Comparison} {op : Operator} {v : Value}
    (h : compareCondition column comparison field v = .ok condition) :
    condition.arguments.map Argument.value = boundOperands ⟨field, op, some v⟩ := by
  obtain ⟨a, ha, rfl⟩ := map_eq_ok_iff.mp h
  rw [boundOperands_of_argument ha]
  rfl

theorem arguments_compareOrNull {comparison : Comparison} {nullTest : Condition} {op : Operator}
    {v : Value} (hnull : nullTest.arguments = [])
    (h : compareOrNull column comparison nullTest field v = .ok condition) :
    condition.arguments.map Argument.value = boundOperands ⟨field, op, some v⟩ := by
  unfold compareOrNull at h
  split at h
  · next hv =>
    cases h
    rw [hnull]
    exact (boundOperands_of_isNull hv).symm
  · exact arguments_compareCondition h

theorem arguments_amongCondition {op : Operator} {candidates : List Value}
    (h : amongCondition column field candidates = .ok condition) :
    condition.arguments.map Argument.value =
      boundOperands ⟨field, op, some (.list candidates)⟩ := by
  obtain ⟨arguments, hargs, h⟩ := bind_eq_ok_iff.mp h
  have harguments : condition.arguments = arguments := by
    cases h
    cases arguments with
    | nil => cases candidates.any Value.isNull <;> rfl
    | cons a rest =>
      cases candidates.any Value.isNull with
      | false => exact (Condition.arguments_orFalse _).trans (Condition.arguments_among _ _)
      | true =>
        refine (Condition.arguments_or _ _).trans ?_
        exact (Condition.arguments_orFalse _).trans (Condition.arguments_among _ _)
  rw [harguments]
  exact value_of_mapM_argument hargs

theorem arguments_containsCondition {column : Column} {op : Operator} {v : Value}
    (h : containsCondition column field v = .ok condition) :
    condition.arguments.map Argument.value = boundOperands ⟨field, op, some v⟩ := by
  unfold containsCondition at h
  split at h
  · obtain ⟨a, ha, rfl⟩ := map_eq_ok_iff.mp h
    rw [boundOperands_of_argument ha]
    rfl
  · cases v with
    | text s =>
      cases h
      rfl
    | _ => cases h

/-- The condition for an operand binds the operands that the criterion does. -/
theorem arguments_operandCondition {column : Column} {op : Operator} {v : Value}
    (hunary : op.isUnary = false) (h : operandCondition column op field v = .ok condition) :
    condition.arguments.map Argument.value = boundOperands ⟨field, op, some v⟩ := by
  cases op with
  | eq | ne => exact arguments_compareOrNull rfl h
  | lt | le | gt | ge => exact arguments_compareCondition h
  | contains => exact arguments_containsCondition h
  | startsWith =>
    cases v with
    | text s =>
      cases h
      rfl
    | _ => cases h
  | isIn =>
    cases v with
    | list candidates => exact arguments_amongCondition h
    | _ => cases h
  | isNull | isNotNull => cases hunary

/-- The condition of `c` has the `boundOperands` of `c` as its arguments. -/
theorem arguments_criterionCondition {m : TableMapping} {c : Criterion}
    (h : criterionCondition m c = .ok condition) :
    condition.arguments.map Argument.value = boundOperands c := by
  unfold criterionCondition at h
  split at h
  · cases h
  rename_i hvalid
  split at h
  · cases h
  rename_i column hcolumn
  obtain ⟨field, op, operand⟩ := c
  cases operand with
  | none =>
    cases op with
    | isNull | isNotNull =>
      cases h
      rfl
    | _ => cases h
  | some v =>
    have hunary := (Criterion.takes_of_isValid hvalid).binary
    cases op with
    | isNull | isNotNull => cases hunary
    | _ => exact arguments_operandCondition hunary h

end Operands

/-- The arguments of the condition of `f` are the operands of its leaves, from left to right. -/
theorem arguments_filterCondition {m : TableMapping} {f : Filter} {condition : Condition}
    (h : filterCondition m f = .ok condition) :
    condition.arguments.map Argument.value = f.leaves.flatMap boundOperands := by
  induction f generalizing condition with
  | const b =>
    cases h
    cases b <;> rfl
  | leaf c =>
    rw [Formula.leaves, List.flatMap_singleton]
    exact arguments_criterionCondition h
  | and f g ihf ihg =>
    obtain ⟨a, ha, h⟩ := bind_eq_ok_iff.mp h
    obtain ⟨b, hb, h⟩ := bind_eq_ok_iff.mp h
    cases h
    rw [Condition.arguments_and, List.map_append, ihf ha, ihg hb, Formula.leaves,
      List.flatMap_append]
  | or f g ihf ihg =>
    obtain ⟨a, ha, h⟩ := bind_eq_ok_iff.mp h
    obtain ⟨b, hb, h⟩ := bind_eq_ok_iff.mp h
    cases h
    rw [Condition.arguments_or, List.map_append, ihf ha, ihg hb, Formula.leaves,
      List.flatMap_append]
  | not f ih =>
    obtain ⟨a, ha, rfl⟩ := map_eq_ok_iff.mp h
    rw [Condition.arguments_not, ih ha, Formula.leaves]

/-! ## Bounds -/

/-- The numbers of rows that a statement binds after the operands. -/
def boundNumbers : Option RowRange → List Nat
  | some r => [r.take, r.skip]
  | none => []

theorem toInt_of_rowCount {n : Nat} {fault : QueryError} {k : Int64}
    (h : rowCount n fault = .ok k) : k.toInt = n := by
  unfold rowCount at h
  split at h
  · next hn =>
    cases h
    exact Int64.toInt_ofNat_of_lt hn
  · cases h

/-- A limiting clause binds the numbers of its `range`. -/
theorem arguments_limitFragments {range : Option RowRange} {limit : Option RowLimit}
    (h : forOption rowLimit range = .ok limit) :
    ∃ numbers : List Int64, numbers.map Int64.toInt = (boundNumbers range).map Nat.cast ∧
      ((limitFragments limit).filterMap Fragment.argument?).map Argument.value =
        numbers.map Value.int := by
  cases range with
  | none =>
    cases h
    exact ⟨[], rfl, rfl⟩
  | some r =>
    obtain ⟨l, hl, rfl⟩ := map_eq_ok_iff.mp h
    obtain ⟨limit, hlimit, hl⟩ := bind_eq_ok_iff.mp hl
    obtain ⟨offset, hoffset, hl⟩ := bind_eq_ok_iff.mp hl
    cases hl
    refine ⟨[limit, offset], ?_, rfl⟩
    rw [List.map_cons, List.map_singleton, toInt_of_rowCount hlimit, toInt_of_rowCount hoffset]
    rfl

/-- The arguments of a statement for `f` are the operands of `f` and then the numbers of its
`range`. -/
theorem arguments_of_statement {m : TableMapping} {f : Filter} {s : Statement}
    {range : Option RowRange}
    (h : (count m f = .ok s ∧ range = none) ∨ ∃ order, select m f order range = .ok s) :
    ∃ numbers : List Int64, numbers.map Int64.toInt = (boundNumbers range).map Nat.cast ∧
      s.arguments.map Argument.value =
        f.leaves.flatMap boundOperands ++ numbers.map Value.int := by
  rcases h with ⟨h, rfl⟩ | ⟨order, h⟩
  · obtain ⟨condition, hcondition, rfl⟩ := map_eq_ok_iff.mp h
    refine ⟨[], rfl, ?_⟩
    rw [Statement.arguments_count, arguments_filterCondition hcondition]
    exact (List.append_nil _).symm
  · obtain ⟨condition, hcondition, h⟩ := bind_eq_ok_iff.mp h
    obtain ⟨rowOrder, -, h⟩ := bind_eq_ok_iff.mp h
    obtain ⟨limit, hlimit, h⟩ := bind_eq_ok_iff.mp h
    cases h
    obtain ⟨numbers, hnumbers, hvalues⟩ := arguments_limitFragments hlimit
    refine ⟨numbers, hnumbers, ?_⟩
    rw [Statement.arguments_select, List.map_append, arguments_filterCondition hcondition, hvalues]

/-- In the text of a statement for `f` the placeholders are numbered from one, from left to right
and up to the number of `s.arguments`, as they are when the statement is written piece by piece. The
arguments are the operands of `f` from left to right, and then the two numbers of the `range` if
there is one: the largest number of rows and the number of rows before them. -/
theorem placeholders_line_up {m : TableMapping} {f : Filter} {s : Statement}
    {range : Option RowRange}
    (h : (count m f = .ok s ∧ range = none) ∨ ∃ order, select m f order range = .ok s) :
    s.fragments.foldl Draft.pushFragment .empty = ⟨s.text, s.arguments⟩ ∧
      placeholdersIn s.text = (List.range' 1 s.arguments.length).map numbered ∧
      ∃ numbers : List Int64, numbers.map Int64.toInt = (boundNumbers range).map Nat.cast ∧
        s.arguments.map Argument.value =
          f.leaves.flatMap boundOperands ++ numbers.map Value.int :=
  ⟨s.foldl_pushFragment, s.placeholdersIn_text, arguments_of_statement h⟩

/-- A candidate that is null binds nothing. -/
theorem placeholders_line_up_null_candidate :
    let name : Column := ⟨⟨"name", by decide⟩, .scalar⟩
    let m : TableMapping := ⟨⟨[⟨"people", by decide⟩]⟩, TableMapping.defaultKey,
      SortedMap.empty.insert "name" name⟩
    let f : Filter := .and (.not (.leaf (.startingWith "name" "A")))
      (.leaf (.among "name" [.text "Ada", .null, .text "$3"]))
    let s : Statement := .select m.table
      (.and (.not (.orFalse (.startsWith name.name "A")))
        (.or (.isNull name.name) (.orFalse (.among name.name [.text "Ada", .text "$3"]))))
      none m.key (some ⟨20, 40⟩)
    select m f none (some ⟨40, 20⟩) = .ok s ∧
      s.fragments.foldl Draft.pushFragment .empty = ⟨s.text, s.arguments⟩ ∧
      placeholdersIn s.text = (List.range' 1 5).map numbered ∧
      ∃ numbers : List Int64, numbers.map Int64.toInt = [20, 40] ∧
        s.arguments.map Argument.value =
          [.text "A", .text "Ada", .text "$3"] ++ numbers.map Value.int := by
  intro name m f s
  have hselect : select m f none (some ⟨40, 20⟩) = .ok s := rfl
  exact ⟨hselect, placeholders_line_up (Or.inr ⟨none, hselect⟩)⟩

end Quarry.Sql
