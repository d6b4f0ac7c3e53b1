import Quarry.Text.CombiningClass
import Quarry.Text.Composition.Table

/-!
# Canonical composition

The same text can be written in several ways: a letter with a mark may be one character or two, and
marks at different places of a letter may come in any order. The composed form is the one way that
all of them are turned into. Characters are first taken apart, the marks on each character are put
in the order of their classes, and what can be put together is put together from left to right.

The syllables of Hangul are composites too. Their code points are computed from those of their two
or three letters.
-/

namespace Quarry.Text

/-! ## Pairs -/

/-- The character `composite` and its two parts. -/
structure Composite where
  first : Char
  second : Char
  composite : Char

/-- Two characters at a time. -/
def pairUp : List Char → List (Char × Char)
  | a :: b :: cs => (a, b) :: pairUp cs
  | _ => []

/-- The composite given by the code points `t`. -/
def Composite.ofTriple (t : Nat × Nat × Nat) : Composite :=
  ⟨Char.ofNat t.1, Char.ofNat t.2.1, Char.ofNat t.2.2⟩

/-- The composites that `compose?` puts together from their parts. -/
def composites : List Composite :=
  compositesBySecond.flatMap (fun entry =>
      (pairUp entry.2.toList).map fun p => ⟨p.1, Char.ofNat entry.1, p.2⟩) ++
    furtherComposites.map .ofTriple

/-- All composites, also those that are only taken apart. -/
def allComposites : List Composite :=
  composites ++ excludedComposites.map .ofTriple

/-! ## Hangul -/

/-- The number of letters that a syllable can begin with. -/
def leadingCount : Nat := 19

/-- The number of vowels that a syllable can have. -/
def vowelCount : Nat := 21

/-- The number of ways in which a syllable can end, one of which is without a letter. -/
def trailingCount : Nat := 28

/-- The syllable of a first letter `a` and a vowel `b`, or of a syllable `a` without a last letter
and the last letter `b`. -/
def syllable? (a b : Char) : Option Char :=
  let lead := a.toNat - 0x1100
  let vowel := b.toNat - 0x1161
  let front := a.toNat - 0xAC00
  let last := b.toNat - 0x11A7
  if 0x1100 ≤ a.toNat ∧ lead < leadingCount ∧ 0x1161 ≤ b.toNat ∧ vowel < vowelCount then
    some (Char.ofNat (0xAC00 + (lead * vowelCount + vowel) * trailingCount))
  else if 0xAC00 ≤ a.toNat ∧ front < leadingCount * vowelCount * trailingCount ∧
      front % trailingCount = 0 ∧ 0x11A7 < b.toNat ∧ last < trailingCount then
    some (Char.ofNat (a.toNat + last))
  else none

/-- The letters of the syllable `c`. -/
def syllableLetters? (c : Char) : Option (List Char) :=
  let n := c.toNat - 0xAC00
  if 0xAC00 ≤ c.toNat ∧ n < leadingCount * vowelCount * trailingCount then
    let front := [Char.ofNat (0x1100 + n / (vowelCount * trailingCount)),
      Char.ofNat (0x1161 + n % (vowelCount * trailingCount) / trailingCount)]
    let last := n % trailingCount
    some (if last = 0 then front else front ++ [Char.ofNat (0x11A7 + last)])
  else none

/-! ## Taking apart -/

/-- The characters that `c` stands for at first sight (`takeApart` goes on with them). -/
def parts? (c : Char) : Option (List Char) :=
  if c.toNat < 0xC0 then none
  else
    match syllableLetters? c with
    | some letters => some letters
    | none =>
      match duplicates.findSome? fun entry =>
          if entry.1 ≤ c.toNat then entry.2.toList[c.toNat - entry.1]? else none with
      | some d => some [d]
      | none => (allComposites.find? (·.composite = c)).map fun p => [p.first, p.second]

/-- The characters that stand for nothing else, for which one character stands. The first argument
bounds the depth (`greatestDepth`). -/
def takeApart : Nat → Char → List Char
  | 0, c => [c]
  | depth + 1, c =>
    match parts? c with
    | some cs => cs.flatMap (takeApart depth)
    | none => [c]

/-- No character has to be taken apart more often than this. -/
def greatestDepth : Nat := 4

/-! ## Order -/

/-- Puts the mark `c` behind those that are there, the nearest first, but in front of those of a
higher class. -/
def insertMark (c : Char) : List Char → List Char
  | [] => [c]
  | d :: ds =>
    if 0 < combiningClass c ∧ combiningClass c < combiningClass d then d :: insertMark c ds
    else c :: d :: ds

/-- Puts the marks on each character of `cs` in the order of their classes. -/
def sortMarks (cs : List Char) : List Char :=
  (cs.foldl (fun done c => insertMark c done) []).reverse

/-! ## Putting together -/

/-- The composite of `a` and `b`, if there is one. -/
def compose? (a b : Char) : Option Char :=
  match syllable? a b with
  | some c => some c
  | none => (composites.find? fun p => p.first = a && p.second = b).map Composite.composite

/-- A text that `composedForm` is putting together. Both lists have the last character first. -/
structure Assembly where
  done : List Char
  base : Option Char
  /-- The marks on it that could not be put together with it. -/
  marks : List Char

/-- The text that `a` is now. -/
def Assembly.toList (a : Assembly) : List Char :=
  (a.marks ++ a.base.toList ++ a.done).reverse

/-- A mark of the same or a higher class keeps `c` from being put together with the base. -/
def Assembly.blocks (a : Assembly) (c : Char) : Bool :=
  a.marks.head?.any fun d => combiningClass c ≤ combiningClass d

/-- Adds the character `c`: it is put together with the base, or begins a new one, or is a mark on
it. -/
def Assembly.add (a : Assembly) (c : Char) : Assembly :=
  let composed := a.base.bind fun b => if a.blocks c then none else compose? b c
  match composed with
  | some d => { a with base := some d }
  | none =>
    if combiningClass c = 0 then ⟨a.marks ++ a.base.toList ++ a.done, some c, []⟩
    else { a with marks := c :: a.marks }

/-- The composed form of the text `cs`: its characters are taken apart, their marks sorted, and all
put together again. -/
def composedForm (cs : List Char) : List Char :=
  let apart := sortMarks (cs.flatMap (takeApart greatestDepth))
  (apart.foldl Assembly.add ⟨[], none, []⟩).toList

end Quarry.Text
