import SeriesQuery.Proofs.Number.Rounding

/-!
# Arithmetic of doubles

A product or a quotient of doubles is the rounding of the product or the quotient of their numbers.
So each step is a single rounding, and it is exact on numbers that the format has.
-/

namespace SeriesQuery.Double

variable {negative : Bool} {bits : ℕ} {x y : Double}

/-- The number that a finite double denotes, without its sign. -/
def absValue (x : Double) : ℚ :=
  BinaryFormat.double.value x.magnitude

/-- Rounded bits leave the sign free. -/
theorem round_lt_signBit (q : ℚ) : BinaryFormat.double.round q < BinaryFormat.double.signBit :=
  lt_of_le_of_lt (BinaryFormat.double.round_le_infinity q) (by decide)

theorem toNat_ofMagnitude (h : bits < BinaryFormat.double.signBit) :
    (ofMagnitude negative bits).bits.toNat =
      if negative then BinaryFormat.double.signBit + bits else bits := by
  have hsign : BinaryFormat.double.signBit = 2 ^ 63 := rfl
  rw [hsign] at h
  rw [ofMagnitude, UInt64.toNat_ofNat', hsign]
  split_ifs <;> exact Nat.mod_eq_of_lt (by omega)

theorem magnitude_ofMagnitude (h : bits < BinaryFormat.double.signBit) :
    (ofMagnitude negative bits).magnitude = bits := by
  rw [magnitude, toNat_ofMagnitude h]
  split_ifs
  · rw [Nat.add_mod_left, Nat.mod_eq_of_lt h]
  · exact Nat.mod_eq_of_lt h

theorem isNegative_ofMagnitude (h : bits < BinaryFormat.double.signBit) :
    (ofMagnitude negative bits).isNegative = negative := by
  rw [isNegative, toNat_ofMagnitude h]
  cases negative with
  | false => simpa using h
  | true => simp

theorem negate_ofMagnitude (h : bits < BinaryFormat.double.signBit) :
    (ofMagnitude negative bits).negate = ofMagnitude (!negative) bits := by
  rw [negate, isNegative_ofMagnitude h, magnitude_ofMagnitude h]

/-- The double without a sign that is nearest to a number. -/
def nearest (q : ℚ) : Double :=
  ofMagnitude false (BinaryFormat.double.round q)

theorem magnitude_nearest (q : ℚ) : (nearest q).magnitude = BinaryFormat.double.round q :=
  magnitude_ofMagnitude (round_lt_signBit q)

theorem ofNat_eq_nearest (n : ℕ) : ofNat n = nearest n := by
  rw [ofNat, BinaryFormat.ofQuotient_eq_round _ _ one_pos, Nat.cast_one, div_one, nearest]

theorem absValue_eq (x : Double) : x.absValue = x.significand * 2 ^ x.exponent :=
  rfl

theorem mulMagnitude_eq_nearest (x y : Double) :
    x.mulMagnitude y = nearest (x.absValue * y.absValue) := by
  have hquotient := quotient_mul_zpow two_ne_zero (x.exponent + y.exponent) (x.significand * y.significand) 1
  rw [Nat.one_mul, Nat.cast_one, div_one, Nat.cast_ofNat, zpow_add₀ two_ne_zero] at hquotient
  rw [mulMagnitude, BinaryFormat.ofQuotient_eq_round _ _ (by positivity), hquotient, nearest,
    absValue_eq, absValue_eq]
  push_cast
  ring_nf

theorem divMagnitude_eq_nearest (x : Double) (hy : y.absValue ≠ 0) :
    x.divMagnitude y = nearest (x.absValue / y.absValue) := by
  have hsignificand : 0 < y.significand := by
    rw [absValue_eq] at hy
    exact Nat.pos_of_ne_zero fun hzero => hy (by rw [hzero, Nat.cast_zero, zero_mul])
  have hquotient := quotient_mul_zpow two_ne_zero (x.exponent - y.exponent) x.significand y.significand
  rw [Nat.cast_ofNat, zpow_sub₀ two_ne_zero] at hquotient
  rw [divMagnitude, BinaryFormat.ofQuotient_eq_round _ _ (by positivity), hquotient, nearest,
    absValue_eq, absValue_eq, div_mul_div_comm]

theorem isZero_iff : x.isZero ↔ x.absValue = 0 := by
  rw [isZero, beq_iff_eq, absValue, ← BinaryFormat.double.value_zero,
    BinaryFormat.double.value_strictMono.injective.eq_iff]

/-- A double that denotes the number of which it is the nearest. -/
theorem absValue_nearest {q : ℚ} (h : BinaryFormat.double.IsExact q) (hq : 0 ≤ q)
    (hfinite : q < BinaryFormat.double.value BinaryFormat.double.infinity) :
    (nearest q).absValue = q := by
  rw [absValue, magnitude_nearest, BinaryFormat.double.value_round_of_isExact h hq hfinite]

end SeriesQuery.Double
