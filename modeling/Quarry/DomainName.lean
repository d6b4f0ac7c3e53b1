import Quarry.DomainName.Mapping
import Quarry.Text.Category
import Quarry.Text.Composition
import Quarry.Text.Direction
import Quarry.Text.Joining
import Quarry.Text.Punycode

/-!
# Domain names

A domain name is a list of labels with dots between them. It may be written in any script. Before it
is looked at, every character is replaced by what it stands for and the text is composed, so that
different ways to write a name give the same labels. A label in the ASCII form, which is `xn--` and
Punycode, is decoded; it has to be the one ASCII form that its text has.

`DomainName.ofChars?` reads a name and refuses those that could not be looked up or that could be
taken for another name: with characters that no name has, with a mark at the start of a label, with
invisible characters that have no effect, or with labels whose direction of writing is mixed up.
-/

namespace Quarry

open Quarry.Text

/-- A domain name. -/
structure DomainName where
  labels : List (List Char)

namespace DomainName

/-! ## Characters -/

/-- What the character `c` stands for, if that is something else (`series`, `letters`, `words`). -/
def image? (c : Char) : Option (List Char) :=
  if c.toNat < 0x80 then if c.isUpper then some [c.toLower] else none
  else if ignored.contains c then some []
  else
    match series.findSome? fun (first, count, distance, image) =>
        let offset := c.toNat - first
        if first ≤ c.toNat ∧ offset < count * distance ∧ offset % distance = 0 then
          some (Char.ofNat (image + offset))
        else none with
    | some d => some [d]
    | none =>
      match letters.findSome? fun (first, images) =>
          if first ≤ c.toNat then images.toList[c.toNat - first]? else none with
      | some d => some [d]
      | none =>
        words.findSome? fun (first, images) =>
          if first ≤ c.toNat then (splitOn '~' images.toList)[c.toNat - first]? else none

/-- The characters that could be seen and still cannot be part of a name, because they would look
like the syntax of names or describe a character instead of being one. -/
def unsuitable : CharSet := ⟨[
    0x2024, 0x2027, 0x2488, 0x249C, 0x2FF0, 0x3000, 0x31EF, 0x31F0, 0x33C2, 0x33C3, 0x33C7, 0x33C8,
    0x33D8, 0x33D9, 0xFE12, 0xFE13, 0xFE19, 0xFE1A, 0xFE30, 0xFE31, 0xFE52, 0xFE53, 0xFFFC, 0xFFFE,
    0x1F100, 0x1F101]⟩

/-- No name has the character `c`. The two characters that influence joining are the only hidden
ones that a name may have. -/
def isForbidden (c : Char) : Bool :=
  0x80 ≤ c.toNat && c ≠ joiner && c ≠ nonJoiner &&
    (hiddenCharacters.contains c || unsuitable.contains c)

/-- No name has the ASCII character `c`: controls, the space, and those that mean something in URLs.
-/
def isForbiddenAscii (c : Char) : Bool :=
  c.toNat ≤ 0x20 || c = '\x7f' || "%#/:<>?@[\\]^|".toList.contains c

/-- The characters that are left of `c`, unless no name has it. -/
def replace? (c : Char) : Option (List Char) :=
  match image? c with
  | some cs => some cs
  | none => if isForbidden c then none else some [c]

/-! ## Labels -/

/-- A label may have so many characters, if not all of them are ASCII. -/
def maxLabelLength : Nat := 1000

/-- The ASCII form of a label may have so many characters after its `xn--`. -/
def maxCodedLength : Nat := 2000

/-- The `label`, which is not in the ASCII form, is acceptable in itself. -/
def isAcceptable (label : List Char) : Bool :=
  !label.any isForbiddenAscii && !label.head?.any isMark && allHaveEffect [] label &&
    (label.all (·.toNat < 0x80) || label.length ≤ maxLabelLength)

/-- The text of the ASCII form `coded`, which is given without its `xn--`. Without anything beyond
ASCII there is no need for that form, so it is refused. -/
def decodeLabel? (coded : List Char) : Option (List Char) :=
  if coded = [] ∨ coded.getLast? = some '-' ∨ maxCodedLength < coded.length then none
  else
    match Punycode.decode? coded with
    | some label =>
      if label.all (fun c => (image? c).isNone && !isForbidden c) && composedForm label = label then
        some label
      else none
    | none => none

/-- Reads a label from `cs`, whose characters have been replaced (`replace?`). -/
def readLabel? (cs : List Char) : Option (List Char) :=
  let label := match cs with
    | 'x' :: 'n' :: '-' :: '-' :: coded => decodeLabel? coded
    | cs => some cs
  label.filter isAcceptable

/-! ## Names -/

/-- Reads a domain name from `cs`: its characters are replaced (`replace?`), the text is composed
and split at its dots, and each label is read by itself (`readLabel?`). With a character of a script
that is written from right to left, all labels have to be well directed. -/
def ofChars? (cs : List Char) : Option DomainName :=
  match cs.mapM replace? with
  | none => none
  | some replaced =>
    match (splitOn '.' (composedForm replaced.flatten)).mapM readLabel? with
    | none => none
    | some labels =>
      if labels.any (·.any isRightward) ∧ ¬ labels.all isWellDirected then none
      else some ⟨labels⟩

/-- There is nothing in the name `d`. -/
def isEmpty (d : DomainName) : Bool :=
  d.labels = [[]]

end DomainName

end Quarry
