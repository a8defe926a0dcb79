/-!
# Byte strings

The payload of most cells is a byte string. This module fixes its type, its order, which is that of
the first bytes in which two strings differ, and its hexadecimal form: two digits a byte, the high
half first.
-/

namespace SeriesQuery

/-- A power of numbers is the built-in one, also where more general powers are at hand. -/
@[default_instance 20000]
instance (priority := 20000) builtInPow {α : Type} [NatPow α] : Pow α Nat := instPowNat

abbrev Bytes := List UInt8

instance Bytes.isLinearOrder : Std.IsLinearOrder Bytes := inferInstance

instance Bytes.lawfulOrderLT : Std.LawfulOrderLT Bytes := inferInstance

/-- The value of a hexadecimal digit in either letter case. -/
def hexValue? (c : Char) : Option Nat :=
  if '0' ≤ c ∧ c ≤ '9' then some (c.toNat - '0'.toNat)
  else if 'a' ≤ c ∧ c ≤ 'f' then some (c.toNat - 'a'.toNat + 10)
  else if 'A' ≤ c ∧ c ≤ 'F' then some (c.toNat - 'A'.toNat + 10)
  else none

/-- The lower-case digit of a number below sixteen. -/
def hexDigit (n : Nat) : Char :=
  if n < 10 then Char.ofNat ('0'.toNat + n) else Char.ofNat ('a'.toNat + (n - 10))

namespace Bytes

def hexDigits (bytes : Bytes) : List Char :=
  bytes.flatMap fun b => [hexDigit (b.toNat / 16), hexDigit (b.toNat % 16)]

def toHex (bytes : Bytes) : String :=
  String.ofList (hexDigits bytes)

/-- Reads pairs of digits. An odd digit at the end or a character that is no digit refuses the whole
text. -/
def ofHexDigits? : List Char → Option Bytes
  | [] => some []
  | [_] => none
  | high :: low :: rest => do
    let h ← hexValue? high
    let l ← hexValue? low
    let bytes ← ofHexDigits? rest
    return UInt8.ofNat (16 * h + l) :: bytes

end Bytes

end SeriesQuery
