import SeriesQuery.Number.Integer
import SeriesQuery.Text.Utf8

/-!
# Bytes from pairs of digits

A text is first judged as a whole by its bytes: there have to be an even number of them, and each has to
be a hexadecimal digit. Then a number is read from every two bytes. The judgement comes first because a
number by itself may begin with a sign, and two bytes by themselves may be no characters.
-/

namespace SeriesQuery.Bytes

def isHexDigit (b : UInt8) : Bool :=
  (0x30 ≤ b && b ≤ 0x39) || (0x41 ≤ b && b ≤ 0x46) || (0x61 ≤ b && b ≤ 0x66)

def isPairsOfDigits (text : List Char) : Bool :=
  Utf8.size text % 2 == 0 && (Utf8.encode text).all isHexDigit

/-- Why there is no byte to read at a place. -/
inductive PairFault where
  /-- The two bytes there are not characters of the text. -/
  | noSlice
  | number (flaw : IntegerFlaw)
  deriving DecidableEq

/-- The number in the two bytes of a text behind its first `place` bytes. -/
def pairAt (text : List Char) (place : Nat) : Except PairFault UInt8 :=
  match Utf8.slice? place 2 text with
  | none => .error .noSlice
  | some pair =>
    match IntegerRange.octet.parseIn .hexadecimal pair with
    | .ok n => .ok (UInt8.ofNat n.toNat)
    | .error flaw => .error (.number flaw)

/-- Every second place of a text. -/
def pairPlaces (text : List Char) : List Nat :=
  List.range' 0 ((Utf8.size text + 1) / 2) 2

def readPairs (text : List Char) : Except PairFault Bytes :=
  (pairPlaces text).mapM (pairAt text)

end SeriesQuery.Bytes
