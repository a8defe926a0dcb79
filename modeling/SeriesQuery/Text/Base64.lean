import SeriesQuery.Bytes

/-!
# Base64

Three bytes are written as four characters of six bits each. One or two bytes at the end are filled
up with zero bits, and equals signs stand for the characters that are not needed.
-/

namespace SeriesQuery.Base64

def digit (n : Nat) : Char :=
  if n < 26 then Char.ofNat ('A'.toNat + n)
  else if n < 52 then Char.ofNat ('a'.toNat + (n - 26))
  else if n < 62 then Char.ofNat ('0'.toNat + (n - 52))
  else if n = 62 then '+'
  else '/'

/-- The character at a place of a group of 24 bits, from the lowest on. -/
def digitAt (group place : Nat) : Char := digit (group / 64 ^ place % 64)

def encode : Bytes → List Char
  | [] => []
  | [a] =>
    let group := a.toNat * 0x10000
    [digitAt group 3, digitAt group 2, '=', '=']
  | [a, b] =>
    let group := a.toNat * 0x10000 + b.toNat * 0x100
    [digitAt group 3, digitAt group 2, digitAt group 1, '=']
  | a :: b :: c :: rest =>
    let group := a.toNat * 0x10000 + b.toNat * 0x100 + c.toNat
    [digitAt group 3, digitAt group 2, digitAt group 1, digitAt group 0] ++ encode rest

end SeriesQuery.Base64
