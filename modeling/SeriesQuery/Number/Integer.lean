import SeriesQuery.Bytes

/-!
# Integers in digits

An optional sign and ASCII digits of a base that denote a number of a given range. A range that starts
at zero takes no minus sign. The digits are judged from the left, so the first one that is no digit or
leads out of the range decides.
-/

namespace SeriesQuery

inductive IntegerFlaw where
  | empty
  | invalidDigit
  | tooLarge
  | tooSmall
  deriving DecidableEq

def IntegerFlaw.message : IntegerFlaw → String
  | .empty => "cannot parse integer from empty string"
  | .invalidDigit => "invalid digit found in string"
  | .tooLarge => "number too large to fit in target type"
  | .tooSmall => "number too small to fit in target type"

structure IntegerRange where
  low : Int
  high : Int
  low_nonpos : low ≤ 0 := by decide
  high_nonneg : 0 ≤ high := by decide

namespace IntegerRange

def int32 : IntegerRange := { low := -2 ^ 31, high := 2 ^ 31 - 1 }

def int64 : IntegerRange := { low := -2 ^ 63, high := 2 ^ 63 - 1 }

def word64 : IntegerRange := { low := 0, high := 2 ^ 64 - 1 }

def octet : IntegerRange := { low := 0, high := 2 ^ 8 - 1 }

end IntegerRange

def digitValue? (c : Char) : Option Nat :=
  if '0' ≤ c ∧ c ≤ '9' then some (c.toNat - '0'.toNat) else none

/-- A base, and what its digits stand for. -/
structure Radix where
  base : Nat
  value? : Char → Option Nat

namespace Radix

def decimal : Radix := { base := 10, value? := digitValue? }

def hexadecimal : Radix := { base := 16, value? := hexValue? }

/-- The number that the digits denote after `value`, as long as it stays within `limit`. -/
def boundedDigits (radix : Radix) (limit : Nat) (excess : IntegerFlaw) (value : Nat) :
    List Char → Except IntegerFlaw Nat
  | [] => .ok value
  | c :: rest =>
    match radix.value? c with
    | none => .error .invalidDigit
    | some d =>
      if value * radix.base + d ≤ limit then
        radix.boundedDigits limit excess (value * radix.base + d) rest
      else .error excess

variable {radix : Radix} {limit value d : Nat} {excess : IntegerFlaw} {c : Char} {rest : List Char}

theorem boundedDigits_digit (hc : radix.value? c = some d) (hd : value * radix.base + d ≤ limit) :
    radix.boundedDigits limit excess value (c :: rest) =
      radix.boundedDigits limit excess (value * radix.base + d) rest := by
  rw [boundedDigits, hc]
  exact if_pos hd

theorem boundedDigits_excess (hc : radix.value? c = some d) (hd : ¬value * radix.base + d ≤ limit) :
    radix.boundedDigits limit excess value (c :: rest) = .error excess := by
  rw [boundedDigits, hc]
  exact if_neg hd

theorem boundedDigits_invalid (hc : radix.value? c = none) :
    radix.boundedDigits limit excess value (c :: rest) = .error .invalidDigit := by
  rw [boundedDigits, hc]

end Radix

namespace IntegerRange

def parseIn (range : IntegerRange) (radix : Radix) (text : List Char) : Except IntegerFlaw Int :=
  match text with
  | [] => .error .empty
  | ['+'] | ['-'] => .error .invalidDigit
  | '+' :: digits => (radix.boundedDigits range.high.toNat .tooLarge 0 digits).map Int.ofNat
  | '-' :: digits =>
    if range.low < 0 then
      (radix.boundedDigits (-range.low).toNat .tooSmall 0 digits).map fun n => -(n : Int)
    else .error .invalidDigit
  | digits => (radix.boundedDigits range.high.toNat .tooLarge 0 digits).map Int.ofNat

def parse (range : IntegerRange) (text : List Char) : Except IntegerFlaw Int :=
  range.parseIn .decimal text

end IntegerRange

end SeriesQuery
