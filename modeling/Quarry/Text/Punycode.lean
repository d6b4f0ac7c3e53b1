import Quarry.Number
import Quarry.Text.Search

/-!
# Punycode

Text beyond ASCII as letters, digits and hyphens. The ASCII characters of the text come first. After
the last hyphen follow the other characters in the order of their code points: each of them as the
distance from the one before, counted through all places where it could have been inserted. A
distance is a number in base 36 whose digits tell by themselves which of them is the last one, and
the limits for that adapt to the distances seen so far.
-/

namespace Quarry.Text.Punycode

/-- The number of digits there are. -/
def base : Nat := 36

/-- Numbers that do not stay below this limit are refused. -/
def limit : Nat := 2 ^ 32

/-- The value of the digit `c`, below `base`. -/
def digit? (c : Char) : Option Nat :=
  if 'a' ≤ c ∧ c ≤ 'z' then some (c.toNat - 'a'.toNat)
  else if 'A' ≤ c ∧ c ≤ 'Z' then some (c.toNat - 'A'.toNat)
  else if '0' ≤ c ∧ c ≤ '9' then some (c.toNat - '0'.toNat + 26)
  else none

/-- A digit below this value is the last one of a number at its `place`. -/
def threshold (place bias : Nat) : Nat :=
  if place ≤ bias then 1 else if bias + 26 ≤ place then 26 else place - bias

/-- Scales `distance` down, and counts by how many places from `place` on. -/
def scaleDown (distance place : Nat) : Nat × Nat :=
  if 455 < distance then scaleDown (distance / 35) (place + base) else (distance, place)
termination_by distance

/-- The bias after `distance` to one of `count` characters. -/
def adapt (distance count : Nat) (isFirst : Bool) : Nat :=
  let scaled := if isFirst then distance / 700 else distance / 2
  let (rest, place) := scaleDown (scaled + scaled / count) 0
  place + base * rest / (rest + 38)

/-- A rest of a text that is shorter than the text `cs`. -/
abbrev ShorterThan (cs : List Char) := { rest : List Char // rest.length < cs.length }

/-- Adds the number at the front of the text to `sum`, given the `place` of the next digit and its
`weight`. -/
def addNumber? (bias : Nat) : (cs : List Char) → (place weight sum : Nat) →
    Option (Nat × ShorterThan cs)
  | [], _, _, _ => none
  | c :: cs, place, weight, sum => do
    let digit ← digit? c
    let sum := sum + digit * weight
    if limit ≤ sum then none
    else if digit < threshold place bias then some (sum, ⟨cs, by simp⟩)
    else
      let weight := weight * (base - threshold place bias)
      if limit ≤ weight then none
      else
        let (sum, rest) ← addNumber? bias cs (place + base) weight sum
        some (sum, ⟨rest.val, by have := rest.property; simp; omega⟩)

/-- The character of the code point `n`, if there is one. -/
def character? (n : Nat) : Option Char :=
  if n < 0xD800 ∨ (0xDFFF < n ∧ n < 0x110000) then some (Char.ofNat n) else none

/-- Inserts the characters that `cs` tells into those that are `found` so far. The code point of the
last one and the place after it are given. -/
def insertAll? (bias codePoint place : Nat) (found : List Char) (cs : List Char) :
    Option (List Char) :=
  if cs = [] then some found
  else
    match addNumber? bias cs base 1 place with
    | none => none
    | some (sum, rest) =>
      let count := found.length + 1
      let codePoint := codePoint + sum / count
      match character? codePoint with
      | none => none
      | some c =>
        insertAll? (adapt (sum - place) count (place = 0)) codePoint (sum % count + 1)
          (found.insertIdx (sum % count) c) rest.val
termination_by cs.length
decreasing_by exact rest.property

/-- The text that `cs` in this form stands for. A hyphen in front of all else is an error. -/
def decode? (cs : List Char) : Option (List Char) :=
  let fromEnd := cs.reverse
  let coded := (fromEnd.takeWhile (· ≠ '-')).reverse
  let plain := (fromEnd.dropWhile (· ≠ '-')).drop 1 |>.reverse
  if coded.length + 1 = cs.length ∨ plain.any (0x80 ≤ ·.toNat) then none
  else insertAll? 72 0x80 0 plain coded

end Quarry.Text.Punycode
