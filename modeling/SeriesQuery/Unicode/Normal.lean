import SeriesQuery.Unicode.CombiningClass
import SeriesQuery.Unicode.Decomposition

/-!
# Normal form

The two ways to write a composed character are brought to one. The text is decomposed, the marks
between two base characters are put in the order of their classes, and then every mark is composed
with its base character where the two have a composed form and no mark of the same or a higher class
stands between them.
-/

namespace SeriesQuery.Unicode

/-- Puts a mark before the marks of higher classes at the start of a text. -/
def insertMark (c : Char) : List Char → List Char
  | [] => [c]
  | d :: rest =>
    if combiningClass c ≠ 0 && combiningClass d ≠ 0 && combiningClass d < combiningClass c then
      d :: insertMark c rest
    else c :: d :: rest

/-- The text with every run of marks in the order of their classes. -/
def sortMarks (text : List Char) : List Char :=
  text.foldr insertMark []

/-- The canonical decomposition of a text. -/
def decomposed (text : List Char) : List Char :=
  sortMarks (text.flatMap decompose)

/-- Composed characters with two parts that are never composed again. -/
def decomposedOnly : List (List Nat) := rows "
344 958,95F 9DC,9DD 9DF A33 A36 A59,A5B A5E B5C,B5D F43 F4D F52 F57 F5C F69 F73 F75,F76 F78 F81
F93 F9D FA2 FA7 FAC FB9 2ADC FB1D FB1F FB2A,FB4E 1D15E,1D164 1D1BB,1D1C0"

def hangulPair? (first second : Nat) : Option Nat :=
  if 0x1100 ≤ first && first < 0x1113 && 0x1161 ≤ second && second < 0x1176 then
    some (hangulFirst + (first - 0x1100) * 588 + (second - 0x1161) * 28)
  else if hangulFirst ≤ first && first < hangulFirst + hangulCount && (first - hangulFirst) % 28 == 0 &&
      0x11A7 < second && second < 0x11C3 then
    some (first + (second - 0x11A7))
  else none

/-- The composed form of two characters. A second part never comes before U+0300. -/
def pair? (first second : Char) : Option Char :=
  if second.toNat < 0x300 then none
  else
    match hangulPair? first.toNat second.toNat with
    | some n => some (Char.ofNat n)
    | none =>
      decompositions.findSome? fun
        | [composed, a, b] =>
          if a == first.toNat && b == second.toNat && !inRanges decomposedOnly composed then
            some (Char.ofNat composed)
          else none
        | _ => none

/-- Whether a character between keeps a mark from its base character. The nearest one decides. -/
def isBlocked (between : List Char) (c : Char) : Bool :=
  match between with
  | [] => false
  | nearest :: _ => combiningClass c ≤ combiningClass nearest

/-- Composes a base character with what follows it. The characters that stayed between are kept from
the last one on. -/
def composeOnto (base : Char) (between : List Char) : List Char → List Char
  | [] => base :: between.reverse
  | c :: rest =>
    let composed := if isBlocked between c then none else pair? base c
    match composed with
    | some joined => composeOnto joined between rest
    | none =>
      if combiningClass c = 0 then base :: between.reverse ++ composeOnto c [] rest
      else composeOnto base (c :: between) rest

def compose : List Char → List Char
  | [] => []
  | c :: rest => if combiningClass c = 0 then composeOnto c [] rest else c :: compose rest

/-- The normal form of a text, which is canonically composed. -/
def normalForm (text : List Char) : List Char :=
  compose (decomposed text)

end SeriesQuery.Unicode
