import SeriesQuery.Number.Binary
import SeriesQuery.Number.Integer

/-!
# Decimal numbers

A decimal number is a whole number of powers of ten. It is rounded correctly to either binary
format. The second half reads the texts of floating-point values: decimal numbers with an optional
point and exponent, and the names of infinity and of NaN.
-/

namespace SeriesQuery

structure Decimal where
  coefficient : Nat
  exponent : Int
  deriving DecidableEq

/-- The number of decimal digits, none for zero. -/
def digitCount (n : Nat) : Nat :=
  if n = 0 then 0 else (Nat.toDigits 10 n).length

/-- The bits of the nearest value of the format. Beyond four hundred places either way every format
has only infinity or zero. -/
def Decimal.toBits (x : Decimal) (format : BinaryFormat) : Nat :=
  let top := (digitCount x.coefficient : Int) + x.exponent
  if x.coefficient = 0 ∨ top < -400 then 0
  else if 400 < top then format.infinity
  else format.ofQuotient (x.coefficient * 10 ^ x.exponent.toNat) (10 ^ (-x.exponent).toNat)

inductive FloatLiteral where
  | finite (negative : Bool) (value : Decimal)
  | infinite (negative : Bool)
  | notANumber (negative : Bool)
  deriving DecidableEq

inductive FloatFlaw where
  | empty
  | invalid
  deriving DecidableEq

def FloatFlaw.message : FloatFlaw → String
  | .empty => "cannot parse float from empty string"
  | .invalid => "invalid float literal"

namespace FloatLiteral

def isNegative : FloatLiteral → Bool
  | .finite negative _ | .infinite negative | .notANumber negative => negative

def magnitude (format : BinaryFormat) : FloatLiteral → Nat
  | .finite _ value => value.toBits format
  | .infinite _ => format.infinity
  | .notANumber _ => format.quietNaN

def bits (literal : FloatLiteral) (format : BinaryFormat) : Nat :=
  if literal.isNegative then format.signBit + literal.magnitude format else literal.magnitude format

def toSingle (literal : FloatLiteral) : Single :=
  ⟨UInt32.ofNat (literal.bits .single)⟩

def toDouble (literal : FloatLiteral) : Double :=
  ⟨UInt64.ofNat (literal.bits .double)⟩

end FloatLiteral

/-- The number that a row of digits denotes. -/
def digitsValue (digits : List Char) : Nat :=
  digits.foldl (fun n c => n * 10 + (c.toNat - '0'.toNat)) 0

def isDigit (c : Char) : Bool :=
  '0' ≤ c && c ≤ '9'

/-- An exponent after its mark: an optional sign and at least one digit, to the end of the text. -/
def exponentPart? (text : List Char) : Option Int :=
  let (negative, digits) :=
    match text with
    | '-' :: rest => (true, rest)
    | '+' :: rest => (false, rest)
    | rest => (false, rest)
  if digits ≠ [] ∧ digits.all isDigit then
    some (if negative then -(digitsValue digits : Int) else digitsValue digits)
  else none

/-- Digits with an optional point, at least one digit in all, and an optional exponent. -/
def decimalText? (text : List Char) : Option Decimal :=
  let whole := text.takeWhile isDigit
  let afterWhole := text.dropWhile isDigit
  let (fraction, rest) :=
    match afterWhole with
    | '.' :: r => (r.takeWhile isDigit, r.dropWhile isDigit)
    | r => ([], r)
  let build (exponent : Int) : Decimal :=
    { coefficient := digitsValue (whole ++ fraction), exponent := exponent - fraction.length }
  if whole ++ fraction = [] then none
  else
    match rest with
    | [] => some (build 0)
    | mark :: r => if mark = 'e' ∨ mark = 'E' then (exponentPart? r).map build else none

/-- The value without its sign. -/
def unsignedFloat? (negative : Bool) (text : List Char) : Option FloatLiteral :=
  match decimalText? text with
  | some value => some (.finite negative value)
  | none =>
    let word := text.map Char.toLower
    if word = "inf".toList ∨ word = "infinity".toList then some (.infinite negative)
    else if word = "nan".toList then some (.notANumber negative)
    else none

def FloatLiteral.parse (text : List Char) : Except FloatFlaw FloatLiteral :=
  let parsed :=
    match text with
    | '-' :: rest => unsignedFloat? true rest
    | '+' :: rest => unsignedFloat? false rest
    | rest => unsignedFloat? false rest
  match text, parsed with
  | [], _ => .error .empty
  | _, some literal => .ok literal
  | _, none => .error .invalid

end SeriesQuery
