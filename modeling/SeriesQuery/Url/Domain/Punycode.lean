import SeriesQuery.Text.Pieces

/-!
# Punycode

A label with characters outside ASCII is written in ASCII: first its ASCII characters, and after a
hyphen where the others go. They are put in one after the other, smallest first; each is given by
the number of places and code points that are passed over since the last one. These numbers have
base 36 with the low digit first. A digit below a threshold ends a number, and the thresholds adapt
to the numbers seen so far.
-/

namespace SeriesQuery.Punycode

def digitOf (n : Nat) : Char :=
  if n < 26 then Char.ofNat ('a'.toNat + n) else Char.ofNat ('0'.toNat + (n - 26))

def valueOf? (c : Char) : Option Nat :=
  if 'a' ≤ c ∧ c ≤ 'z' then some (c.toNat - 'a'.toNat)
  else if 'A' ≤ c ∧ c ≤ 'Z' then some (c.toNat - 'A'.toNat)
  else if '0' ≤ c ∧ c ≤ '9' then some (c.toNat - '0'.toNat + 26)
  else none

/-- The threshold of the digit at a place, which counts in steps of 36. -/
def threshold (bias place : Nat) : Nat :=
  max 1 (min 26 (place - bias))

theorem one_le_threshold (bias place : Nat) : 1 ≤ threshold bias place := by
  unfold threshold; omega

/-- Halves a distance by the range of a digit until it is small, and counts the places. -/
def scale (distance places : Nat) : Nat × Nat :=
  if 455 < distance then scale (distance / 35) (places + 36) else (distance, places)
termination_by distance
decreasing_by omega

/-- The bias after a distance, when so many characters are in the label. The first distance is
damped, because it leads from ASCII to the script of the label. -/
def adapt (distance count : Nat) (first : Bool) : Nat :=
  let halved := if first then distance / 700 else distance / 2
  let (rest, places) := scale (halved + halved / count) 0
  places + 36 * rest / (rest + 38)

/-! ### Writing -/

/-- The digits of a number from a place on. -/
def digits (bias place n : Nat) : List Char :=
  let t := threshold bias place
  if n < t then [digitOf n]
  else digitOf (t + (n - t) % (36 - t)) :: digits bias (place + 36) ((n - t) / (36 - t))
termination_by n
decreasing_by
  have ht := one_le_threshold bias place
  calc (n - threshold bias place) / (36 - threshold bias place)
      ≤ n - threshold bias place := Nat.div_le_self _ _
    _ < n := by omega

/-- Where writing stands: the distance since the last character, the bias, the number of characters
written, and their digits. -/
structure Progress where
  distance : Nat
  bias : Nat
  count : Nat
  written : List Char

/-- Passes over one character of the label when `n` is written. -/
def pass (basics n : Nat) (p : Progress) (c : Char) : Progress :=
  if c.toNat < n then { p with distance := p.distance + 1 }
  else if c.toNat = n then
    { distance := 0
      bias := adapt p.distance (p.count + 1) (p.count == basics)
      count := p.count + 1
      written := p.written ++ digits p.bias 36 p.distance }
  else p

/-- Writes the code points of a list, which ascends from `last`. -/
def writeFrom (label : List Char) (basics last : Nat) (p : Progress) : List Nat → Progress
  | [] => p
  | n :: rest =>
    let p := { p with distance := p.distance + (n - last) * (p.count + 1) }
    let p := label.foldl (pass basics n) p
    writeFrom label basics (n + 1) { p with distance := p.distance + 1 } rest

def isBasic (c : Char) : Bool := c.toNat < 0x80

def encode (label : List Char) : List Char :=
  let basic := label.filter isBasic
  let others := ((label.filter fun c => !isBasic c).map Char.toNat).mergeSort.eraseDups
  let start : Progress := { distance := 0, bias := 72, count := basic.length, written := [] }
  basic ++ (if basic.isEmpty then [] else ['-']) ++
    (writeFrom label basic.length 0x80 start others).written

/-! ### Reading -/

/-- Adds the number that starts at a place to `sum`. The weight of a digit has to fit 32 bits. -/
def readNumber (bias : Nat) : Nat → Nat → Nat → List Char → Option (Nat × List Char)
  | _, _, _, [] => none
  | place, weight, sum, c :: rest =>
    match valueOf? c with
    | none => none
    | some d =>
      let t := threshold bias place
      if d < t then some (sum + d * weight, rest)
      else if weight * (36 - t) < 2 ^ 32 then
        readNumber bias (place + 36) (weight * (36 - t)) (sum + d * weight) rest
      else none

/-- Puts characters into a label, from the code point `n` and a position on. Each takes at least one
digit, so the number of digits bounds their number. -/
def insertFrom : Nat → Nat → Nat → Nat → List Char → List Char → Option (List Char)
  | _, _, _, _, label, [] => some label
  | 0, _, _, _, _, _ :: _ => none
  | bound + 1, bias, n, position, label, digits => do
    let (sum, rest) ← readNumber bias 36 1 position digits
    let count := label.length + 1
    let next := n + sum / count
    let place := sum % count
    if next.isValidChar then
      insertFrom bound (adapt (sum - position) count (position == 0)) next (place + 1)
        (label.take place ++ Char.ofNat next :: label.drop place) rest
    else none

def decode? (text : List Char) : Option (List Char) :=
  let (basic, digits) :=
    match splitLast? '-' text with
    | some (b :: basic, digits) => (b :: basic, digits)
    | _ => ([], text)
  insertFrom digits.length 72 0x80 0 basic digits

end SeriesQuery.Punycode
