/-!
# Searching text

Whether a text starts with another one, and whether it has another one somewhere inside. Both are
stated on lists of characters, where the empty text starts every text and occurs in every text.
-/

namespace Quarry.Text

/-- The text `needle` stands at some place in the other text. -/
def occursIn (needle : List Char) : List Char → Bool
  | [] => needle.isEmpty
  | c :: cs => needle.isPrefixOf (c :: cs) || occursIn needle cs

/-- The text `s` starts with the text `t`. -/
def startsWith (s t : String) : Bool :=
  t.toList.isPrefixOf s.toList

/-- The text `t` occurs in the text `s`. -/
def contains (s t : String) : Bool :=
  occursIn t.toList s.toList

/-- The parts of a text between the occurrences of `separator`, one more than there are of these. -/
def splitOn (separator : Char) : List Char → List (List Char)
  | [] => [[]]
  | c :: cs =>
    match splitOn separator cs with
    | [] => [[c]]
    | part :: parts => if c = separator then [] :: part :: parts else (c :: part) :: parts

/-- The parts of `s` between the occurrences of `separator` (`splitOn`). -/
def split (separator : Char) (s : String) : List String :=
  (splitOn separator s.toList).map String.ofList

end Quarry.Text
