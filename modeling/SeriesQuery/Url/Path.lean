import SeriesQuery.Url.Authority

/-!
# Paths

The segments of a path between slashes. A segment of one dot says nothing, and one of two dots takes
back the segment before it, unless that is a drive letter. Dots can be written with percent signs.
Segments can also be put behind a path one by one.
-/

namespace SeriesQuery.Url.Path

/-- The segment with every dot written as itself. -/
def plainDots : List Char → List Char
  | '%' :: '2' :: 'e' :: rest | '%' :: '2' :: 'E' :: rest => '.' :: plainDots rest
  | c :: rest => c :: plainDots rest
  | [] => []

def isDot (segment : List Char) : Bool := plainDots segment == ['.']

def isDoubleDot (segment : List Char) : Bool := plainDots segment == ['.', '.']

/-- Takes back the last segment. The segments come in reverse. -/
def up : List (List Char) → List (List Char)
  | last :: earlier => if Authority.isDriveLetter last then last :: earlier else earlier
  | [] => []

/-- The segments that are left of a path, after earlier ones in reverse. A path that ends in dots
ends in an empty segment. -/
def resolveFrom (earlier : List (List Char)) : List (List Char) → List (List Char)
  | [] => earlier.reverse
  | [last] =>
    if isDoubleDot last then (up earlier).reverse ++ [[]]
    else if isDot last then earlier.reverse ++ [[]]
    else earlier.reverse ++ [last]
  | segment :: rest =>
    if isDoubleDot segment then resolveFrom (up earlier) rest
    else if isDot segment then resolveFrom earlier rest
    else resolveFrom (segment :: earlier) rest

/-- The path of a special scheme, from its first slash to a question mark or a number sign. -/
def parse (text : List Char) : List (List Char) :=
  match text.takeWhile fun c => c != '?' && c != '#' with
  | [] => [[]]
  | _ :: path => resolveFrom [] (splitAll (Authority.isSlash true) path)

/-- The path of a single slash. -/
def root : List (List Char) := [[]]

/-- The characters that a segment cannot hold as they are. -/
def isReserved (c : Char) : Bool :=
  c.toNat ≤ 0x20 || c.toNat == 0x7F || c.toNat == 0x60 ||
    ['"', '#', '<', '>', '?', '{', '}', '/', '%', '\\'].contains c

/-- Puts a segment behind the others. A segment of one or two dots is left out, and the root has no
segment of its own. -/
def push (segments : List (List Char)) (segment : List Char) : List (List Char) :=
  if segment = ['.'] ∨ segment = ['.', '.'] then segments
  else if segments = root then [Percent.encode isReserved segment]
  else segments ++ [Percent.encode isReserved segment]

/-- The path as it is written. -/
def text (segments : List (List Char)) : List Char :=
  segments.flatMap ('/' :: ·)

end SeriesQuery.Url.Path
