import SeriesQuery.Number.Decimal

/-!
# Shortest decimal texts

The text of a double has the fewest digits that read back as it, and of those the nearest. It is
positional where the first digit stands between the fifth place after the point and the sixteenth
before it, and has an exponent mark elsewhere.
-/

namespace SeriesQuery.Double

/-- Whether `num / den` rounds to the positive finite value: it lies between the midpoints to the
neighbours, ends included for an even significand. -/
def readsBack (x : Double) (num den : Nat) : Bool :=
  let m := x.significand
  let unit := x.exponent - 2
  let below := if m = 2 ^ 52 ∧ 2 ^ 53 ≤ x.magnitude then 1 else 2
  let up := 2 ^ unit.toNat
  let down := 2 ^ (-unit).toNat
  let low := (4 * m - below) * up * den
  let high := (4 * m + 2) * up * den
  let point := num * down
  if m % 2 = 0 then low ≤ point && point ≤ high else low < point && point < high

/-- The power of ten of the first digit of a positive quotient. -/
def leadingPlace (num den : Nat) : Int :=
  if den ≤ num then (digitCount (num / den) : Int) - 1 else -(digitCount ((den - 1) / num) : Int)

/-- The nearest decimal number of `count` digits that reads back, if one does. -/
def ofDigitCount? (x : Double) (count : Nat) : Option Decimal :=
  let num := x.significand * 2 ^ x.exponent.toNat
  let den := 2 ^ (-x.exponent).toNat
  let place := leadingPlace num den - count + 1
  let scaledNum := num * 10 ^ (-place).toNat
  let scaledDen := den * 10 ^ place.toNat
  let below := scaledNum / scaledDen
  let reads (k : Nat) := x.readsBack (k * 10 ^ place.toNat) (10 ^ (-place).toNat)
  let nearest := roundQuotient scaledNum scaledDen
  let other := if nearest = below then below + 1 else below
  if reads nearest then some { coefficient := nearest, exponent := place }
  else if reads other then some { coefficient := other, exponent := place }
  else none

/-- The shortest decimal number of a positive finite value: seventeen digits always suffice. -/
def shortest (x : Double) : Decimal :=
  let found := (List.range 17).findSome? fun n => x.ofDigitCount? (n + 1)
  found.getD { coefficient := 0, exponent := 0 }

/-- The digits without the zeros at the end. -/
def significantDigits (x : Decimal) : List Char :=
  ((Nat.toDigits 10 x.coefficient).reverse.dropWhile (· == '0')).reverse

/-- Two digits at least. -/
def exponentDigits (n : Nat) : List Char :=
  if n < 10 then '0' :: Nat.toDigits 10 n else Nat.toDigits 10 n

/-- The text of a positive number: a whole number keeps `.0`, and an exponent always has
its sign. -/
def decimalText (x : Decimal) : List Char :=
  let digits := significantDigits x
  let place : Int := (digitCount x.coefficient : Int) + x.exponent - 1
  if -5 ≤ place ∧ place < 0 then
    ['0', '.'] ++ List.replicate (-place - 1).toNat '0' ++ digits
  else if 0 ≤ place ∧ place ≤ 15 then
    let whole := place.toNat + 1
    if digits.length ≤ whole then digits ++ List.replicate (whole - digits.length) '0' ++ ['.', '0']
    else digits.take whole ++ ['.'] ++ digits.drop whole
  else
    let mantissa :=
      match digits with
      | first :: second :: rest => first :: '.' :: second :: rest
      | short => short
    mantissa ++ ['e', if place < 0 then '-' else '+'] ++ exponentDigits place.natAbs

def text (x : Double) : String :=
  String.ofList ((if x.isNegative then ['-'] else []) ++
    (if x.isZero then ['0', '.', '0'] else decimalText x.shortest))

end SeriesQuery.Double
