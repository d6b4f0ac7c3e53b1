import Quarry.Text.Search

/-!
# Paths of URLs

A path is a list of segments. The segment `.` stands for the place where it is and `..` for the
place above, also if their dots are percent-encoded, so such segments are resolved and no longer
part of the path. Above a drive letter there is no other place.
-/

namespace Quarry.ConnectionUrl

open Quarry.Text

/-- The text by which `segment` is compared without regard to case, as the digits of encoded dots
may be capitals. -/
def lowerSegment (segment : List Char) : String :=
  String.ofList (segment.map Char.toLower)

/-- The text `segment` is a single dot, which stands for the place where it is. -/
def isHere (segment : List Char) : Bool :=
  [".", "%2e"].contains (lowerSegment segment)

/-- The text `segment` is a pair of dots, which stands for the place above. -/
def isAbove (segment : List Char) : Bool :=
  ["..", ".%2e", "%2e.", "%2e%2e"].contains (lowerSegment segment)

/-- Whether the text is a drive letter, with a colon or a bar, and nothing else. -/
def isDrive : List Char → Bool
  | [letter, mark] => letter.isAlpha && (mark = ':' || mark = '|')
  | _ => false

/-- The text `segment` begins with a drive letter. A character that ends a path in some URL ends the
letter. -/
def beginsWithDrive (segment : List Char) : Bool :=
  isDrive (segment.take 2) && (segment[2]?).all fun c => c = '\\' || c = '?' || c = '#'

/-- The segments above the last one of those given, which come with the last one first. A segment
that `beginsWithDrive` stays. -/
def goUp : List (List Char) → List (List Char)
  | [] => []
  | segment :: before => if beginsWithDrive segment then segment :: before else before

/-- Resolves the dot segments of the given path after the segments `before` it, which are given with
the last one first. A path that ends in a dot segment ends in an empty one when that is resolved. -/
def resolve (before : List (List Char)) : List (List Char) → List (List Char)
  | [] => before.reverse
  | [segment] =>
    if isAbove segment then ([] :: goUp before).reverse
    else if isHere segment then ([] :: before).reverse
    else (segment :: before).reverse
  | segment :: rest =>
    if isAbove segment then resolve (goUp before) rest
    else if isHere segment then resolve before rest
    else resolve (segment :: before) rest

/-- The text `path` without dot segments. It is given and given back without the slash at its front.
-/
def resolvePath (path : List Char) : List Char :=
  ['/'].intercalate (resolve [] (splitOn '/' path))

end Quarry.ConnectionUrl
