import SeriesQuery.Bytes
import SeriesQuery.Number.Integer
import SeriesQuery.Text.Pieces

/-!
# IPv4 addresses

An address is a 32-bit word. It is read from one to four numbers between dots, where the last number
fills all bytes that the others leave. A number is decimal, octal after a zero, or hexadecimal after
`0x`; a prefix alone is zero. It is written as its four bytes in decimal.
-/

namespace SeriesQuery

structure Ipv4 where
  word : UInt32
  deriving DecidableEq

namespace Ipv4

/-- The number that the digits denote, if each of them is a digit of the base. -/
def digitsValue? (base : Nat) (digits : List Char) : Option Nat :=
  digits.foldl
    (fun value c => do
      let n ← value
      let d ← hexValue? c
      if d < base then some (n * base + d) else none)
    (some 0)

def number? : List Char → Option Nat
  | [] => none
  | '0' :: 'x' :: digits | '0' :: 'X' :: digits => digitsValue? 16 digits
  | '0' :: digits => digitsValue? 8 digits
  | digits => digitsValue? 10 digits

/-- The parts of a name, without an empty one at the end. -/
def parts (name : List Char) : List (List Char) :=
  let all := splitAll (· == '.') name
  match all.getLast? with
  | some [] => all.dropLast
  | _ => all

/-- Whether the last part of a name is a number, so that the name can only be an address. -/
def isIntended (name : List Char) : Bool :=
  match (parts name).getLast? with
  | none => false
  | some part => (!part.isEmpty && part.all fun c => (digitValue? c).isSome) || (number? part).isSome

/-- The word of the numbers: each but the last is one byte, from the highest on. -/
def wordOfNumbers? : List Nat → Option Nat
  | [] => none
  | numbers@(first :: _) =>
    let bytes := numbers.dropLast
    let last := numbers.getLast?.getD first
    if numbers.length ≤ 4 && bytes.all (· < 256) && last < 256 ^ (5 - numbers.length) then
      some (bytes.foldl (fun n b => n * 256 + b) 0 * 256 ^ (5 - numbers.length) + last)
    else none

def parse? (name : List Char) : Option Ipv4 := do
  let numbers ← (parts name).mapM number?
  let word ← wordOfNumbers? numbers
  return ⟨UInt32.ofNat word⟩

def decimal (n : Nat) : List Char := Nat.toDigits 10 n

def text (a : Ipv4) : List Char :=
  let byte (k : Nat) : List Char := decimal (a.word.toNat / 256 ^ k % 256)
  byte 3 ++ '.' :: byte 2 ++ '.' :: byte 1 ++ '.' :: byte 0

end Ipv4

end SeriesQuery
