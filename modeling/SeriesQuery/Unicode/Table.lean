import SeriesQuery.Bytes
import SeriesQuery.Text.Pieces

/-!
# Tables of character properties

A table is written as text: rows with white space between them, and in a row hexadecimal numbers
with commas between them. A row of a table of ranges is the first and the last character of a range,
or a single character, and what is said about them comes after.
-/

namespace SeriesQuery.Unicode

def hexNumber (digits : List Char) : Nat :=
  digits.foldl (fun n c => n * 16 + (hexValue? c).getD 0) 0

def rowOfWord (word : List Char) : List Nat :=
  (splitAll (· == ',') word).map hexNumber

def rows (text : String) : List (List Nat) :=
  let words := splitAll (fun c => c == ' ' || c == '\n') text.toList
  (words.filter fun word => !word.isEmpty).map rowOfWord

/-- Whether a character lies in one of the ranges. -/
def inRanges (ranges : List (List Nat)) (n : Nat) : Bool :=
  ranges.any fun
    | [single] => n == single
    | first :: last :: _ => first ≤ n && n ≤ last
    | [] => false

end SeriesQuery.Unicode
