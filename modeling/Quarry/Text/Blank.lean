/-!
# Blank characters

The characters with the Unicode property `White_Space`, and the trimming of text at both ends by
that property. A field name, an environment variable and a sort direction are all read after
trimming, so a text of blank characters only counts as empty.
-/

namespace Quarry.Text

/-- The character `c` has the Unicode property `White_Space`. -/
def isBlank (c : Char) : Bool :=
  let n := c.toNat
  (9 ≤ n && n ≤ 13) || n == 0x20 || n == 0x85 || n == 0xA0 || n == 0x1680 ||
    (0x2000 ≤ n && n ≤ 0x200A) || n == 0x2028 || n == 0x2029 || n == 0x202F || n == 0x205F ||
    n == 0x3000

/-- Drops the blank characters at the front of `cs`. -/
def dropBlanks (cs : List Char) : List Char :=
  cs.dropWhile isBlank

/-- Drops the blank characters at both ends of `cs`. -/
def trimChars (cs : List Char) : List Char :=
  (dropBlanks (dropBlanks cs).reverse).reverse

/-- The text `s` without the blank characters at its two ends. -/
def trim (s : String) : String :=
  String.ofList (trimChars s.toList)

/-- The text `s` has no character that is not blank. -/
def isBlankText (s : String) : Bool :=
  s.toList.all isBlank

/-- The text `s` with small letters for the ASCII capital letters. -/
def asciiLower (s : String) : String :=
  String.ofList (s.toList.map Char.toLower)

end Quarry.Text
