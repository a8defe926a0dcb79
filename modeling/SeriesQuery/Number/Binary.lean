import SeriesQuery.Bytes

/-!
# Binary floating point

Single and double precision as bit patterns, so that every payload of a NaN and both zeros stay
apart. A non-negative rational number is rounded to the nearest value of a format, a half to the
even neighbour; what is too large becomes infinite. All arithmetic is exact.
-/

namespace SeriesQuery

structure BinaryFormat where
  fractionBits : Nat
  exponentBits : Nat

namespace BinaryFormat

def single : BinaryFormat := { fractionBits := 23, exponentBits := 8 }

def double : BinaryFormat := { fractionBits := 52, exponentBits := 11 }

/-- The exponent of the least positive value. -/
def leastExponent (format : BinaryFormat) : Int :=
  2 - 2 ^ (format.exponentBits - 1) - format.fractionBits

/-- The bits of infinity. -/
def infinity (format : BinaryFormat) : Nat :=
  (2 ^ format.exponentBits - 1) * 2 ^ format.fractionBits

/-- The bits of the NaN that arithmetic gives. -/
def quietNaN (format : BinaryFormat) : Nat :=
  format.infinity + 2 ^ (format.fractionBits - 1)

def signBit (format : BinaryFormat) : Nat :=
  2 ^ (format.fractionBits + format.exponentBits)

end BinaryFormat

/-- The nearest natural number to a quotient, a half to the even one. -/
def roundQuotient (num den : Nat) : Nat :=
  let whole := num / den
  let rest := num % den
  if 2 * rest < den then whole
  else if den < 2 * rest then whole + 1
  else whole + whole % 2

/-- The integer part of the binary logarithm of a positive quotient. -/
def logQuotient (num den : Nat) : Int :=
  let guess : Int := (num.log2 : Int) - den.log2
  if den * 2 ^ guess.toNat ≤ num * 2 ^ (-guess).toNat then guess else guess - 1

/-- The bits of the value nearest to a quotient. The significand counts units of the last place;
adding it to the exponent field lets a carry run into the next binade. -/
def BinaryFormat.ofQuotient (format : BinaryFormat) (num den : Nat) : Nat :=
  if num = 0 then 0
  else
    let exponent := max (logQuotient num den - format.fractionBits) format.leastExponent
    let significand := roundQuotient (num * 2 ^ (-exponent).toNat) (den * 2 ^ exponent.toNat)
    min format.infinity
      ((exponent - format.leastExponent).toNat * 2 ^ format.fractionBits + significand)

structure Single where
  bits : UInt32
  deriving DecidableEq

structure Double where
  bits : UInt64
  deriving DecidableEq

namespace Single

def byteLength : Nat := 4

/-- Little-endian order: the lowest byte first. -/
def toBytes (x : Single) : Bytes :=
  [x.bits.toUInt8, (x.bits >>> 8).toUInt8, (x.bits >>> 16).toUInt8, (x.bits >>> 24).toUInt8]

def ofBytes? : Bytes → Option Single
  | [a, b, c, d] =>
    some ⟨a.toUInt32 ||| b.toUInt32 <<< 8 ||| c.toUInt32 <<< 16 ||| d.toUInt32 <<< 24⟩
  | _ => none

end Single

namespace Double

def byteLength : Nat := 8

/-- Little-endian order: the lowest byte first. -/
def toBytes (x : Double) : Bytes :=
  [x.bits.toUInt8, (x.bits >>> 8).toUInt8, (x.bits >>> 16).toUInt8, (x.bits >>> 24).toUInt8,
    (x.bits >>> 32).toUInt8, (x.bits >>> 40).toUInt8, (x.bits >>> 48).toUInt8, (x.bits >>> 56).toUInt8]

def ofBytes? : Bytes → Option Double
  | [a, b, c, d, e, f, g, h] =>
    some ⟨a.toUInt64 ||| b.toUInt64 <<< 8 ||| c.toUInt64 <<< 16 ||| d.toUInt64 <<< 24 |||
      e.toUInt64 <<< 32 ||| f.toUInt64 <<< 40 ||| g.toUInt64 <<< 48 ||| h.toUInt64 <<< 56⟩
  | _ => none

/-- The bits of a value and its sign. -/
def ofMagnitude (negative : Bool) (bits : Nat) : Double :=
  ⟨UInt64.ofNat (if negative then BinaryFormat.double.signBit + bits else bits)⟩

def isNegative (x : Double) : Bool :=
  BinaryFormat.double.signBit ≤ x.bits.toNat

/-- The bits without the sign. -/
def magnitude (x : Double) : Nat :=
  x.bits.toNat % BinaryFormat.double.signBit

def isInfinite (x : Double) : Bool :=
  x.magnitude == BinaryFormat.double.infinity

def isZero (x : Double) : Bool :=
  x.magnitude == 0

def negate (x : Double) : Double :=
  ofMagnitude (!x.isNegative) x.magnitude

/-- The whole number of units of the last place that a finite value is, without its sign. -/
def significand (x : Double) : Nat :=
  let fraction := x.magnitude % 2 ^ 52
  if x.magnitude < 2 ^ 52 then fraction else fraction + 2 ^ 52

/-- The exponent of the unit of the last place of a finite value. -/
def exponent (x : Double) : Int :=
  BinaryFormat.double.leastExponent + ((x.magnitude / 2 ^ 52 - 1 : Nat) : Int)

def ofNat (n : Nat) : Double :=
  ofMagnitude false (BinaryFormat.double.ofQuotient n 1)

/-- The rounded product of two finite values without their signs. -/
def mulMagnitude (x y : Double) : Double :=
  let exponent := x.exponent + y.exponent
  ofMagnitude false (BinaryFormat.double.ofQuotient
    (x.significand * y.significand * 2 ^ exponent.toNat) (2 ^ (-exponent).toNat))

/-- The rounded quotient of two finite values without their signs; the second is not zero. -/
def divMagnitude (x y : Double) : Double :=
  let exponent := x.exponent - y.exponent
  ofMagnitude false (BinaryFormat.double.ofQuotient
    (x.significand * 2 ^ exponent.toNat) (y.significand * 2 ^ (-exponent).toNat))

end Double

end SeriesQuery
