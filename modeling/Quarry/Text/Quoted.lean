import Quarry.Text.Visible

/-!
# Quoted text

Text between double quotes, in the form in which error texts and rendered criteria show it. The
quote and the backslash are escaped, the four common control characters have a letter, and every
other character that is not visible is written by its code point, as in `\u{301}`.
-/

namespace Quarry.Text

/-- The code point `n` in lower-case hexadecimal digits without leading zeros. -/
def hexDigits (n : Nat) : String :=
  String.ofList (Nat.toDigits 16 n)

/-- The character `c` as it stands between the quotes. -/
def quoteChar (c : Char) : String :=
  if c = '\x00' then "\\0"
  else if c = '\t' then "\\t"
  else if c = '\r' then "\\r"
  else if c = '\n' then "\\n"
  else if c = '\\' then "\\\\"
  else if c = '"' then "\\\""
  else if isVisible c then String.singleton c
  else "\\u\x7b" ++ hexDigits c.toNat ++ "\x7d"

/-- The text `s` between double quotes, with escapes (`quoteChar`). -/
def quote (s : String) : String :=
  "\"" ++ String.join (s.toList.map quoteChar) ++ "\""

end Quarry.Text
