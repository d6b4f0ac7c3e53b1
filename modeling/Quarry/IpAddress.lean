import Quarry.Number
import Quarry.Text.Search

/-!
# IP addresses

The texts of addresses of version 4 and 6. An address of version 4 also has liberal forms, in which
a number may be octal or hexadecimal and the last number may stand for several bytes. A name whose
last label is a number is always meant as one of them.
-/

namespace Quarry.IpAddress

open Quarry.Text

/-! ## Strict forms -/

/-- The text `cs` is a number from 0 to 255 without zeros in front. -/
def isOctet (cs : List Char) : Bool :=
  cs ≠ [] && cs.all Char.isDigit && cs.length ≤ 3 && (cs.length = 1 || cs.head? ≠ some '0') &&
    (String.ofList cs).toNat?.any (· ≤ 255)

/-- The text `cs` is an IPv4 address: four octets with dots between them. -/
def isIpv4 (cs : List Char) : Bool :=
  let parts := splitOn '.' cs
  parts.length = 4 && parts.all isOctet

/-- The text `cs` is a group of an IPv6 address: one to four hexadecimal digits. -/
def isHexGroup (cs : List Char) : Bool :=
  cs ≠ [] && cs.length ≤ 4 &&
    cs.all fun c => c.isDigit || ('a' ≤ c && c ≤ 'f') || ('A' ≤ c && c ≤ 'F')

/-- The number of 16-bit groups that are written, the last of which may be an IPv4 address. -/
def groupCount? : List (List Char) → Option Nat
  | [] => some 0
  | [g] => if isHexGroup g then some 1 else if isIpv4 g then some 2 else none
  | g :: gs => if isHexGroup g then (groupCount? gs).map (· + 1) else none

/-- The texts before and after the first double colon. -/
def splitDoubleColon? : List Char → Option (List Char × List Char)
  | ':' :: ':' :: cs => some ([], cs)
  | c :: cs => (splitDoubleColon? cs).map fun (a, b) => (c :: a, b)
  | [] => none

/-- The groups between the single colons of `cs`; no text has none. -/
def colonGroups (cs : List Char) : List (List Char) :=
  if cs = [] then [] else splitOn ':' cs

/-- The text `cs` is an IPv6 address: eight groups, or fewer with one double colon among them. -/
def isIpv6 (cs : List Char) : Bool :=
  match splitDoubleColon? cs with
  | none => groupCount? (splitOn ':' cs) == some 8
  | some (a, b) =>
    (colonGroups a).all isHexGroup &&
      match groupCount? (colonGroups b) with
      | some n => (colonGroups a).length + n ≤ 7
      | none => false

/-! ## Liberal forms of version 4 -/

/-- The number `cs` of the liberal form of IPv4 addresses: hexadecimal after `0x`, octal after `0`.
-/
def liberalNumber? (cs : List Char) : Option Nat :=
  let digits (base : Nat) (cs : List Char) : Option Nat :=
    cs.foldlM (fun n c =>
      let d := if c.isDigit then c.toNat - '0'.toNat
        else if 'a' ≤ c ∧ c ≤ 'f' then c.toNat - 'a'.toNat + 10
        else if 'A' ≤ c ∧ c ≤ 'F' then c.toNat - 'A'.toNat + 10
        else 16
      if d < base then some (base * n + d) else none) 0
  match cs with
  | [] => none
  | '0' :: 'x' :: rest => digits 16 rest
  | '0' :: 'X' :: rest => digits 16 rest
  | '0' :: rest => digits 8 rest
  | cs => digits 10 cs

/-- The `labels` without an empty one at the end. -/
def withoutRoot (labels : List (List Char)) : List (List Char) :=
  if labels.getLast? = some [] ∧ 1 < labels.length then labels.dropLast else labels

/-- The last of the `labels` is a number, so that they have to be an address and cannot be a name.
-/
def endsInNumber (labels : List (List Char)) : Bool :=
  match (withoutRoot labels).getLast? with
  | some l => (l ≠ [] && l.all Char.isDigit) || (liberalNumber? l).isSome
  | none => false

/-- The `labels` are a liberal IPv4 address: up to four numbers, the last of which fills the bytes
that are left. -/
def isLiberalIpv4 (labels : List (List Char)) : Bool :=
  match (withoutRoot labels).mapM liberalNumber? with
  | some ns =>
    ns.length ≤ 4 && ns.dropLast.all (· ≤ 255) &&
      match ns.getLast? with
      | some n => n < 256 ^ (5 - ns.length)
      | none => false
  | none => false

end Quarry.IpAddress
