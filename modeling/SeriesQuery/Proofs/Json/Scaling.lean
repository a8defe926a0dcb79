import SeriesQuery.Json.Lexical
import SeriesQuery.Proofs.Number.Double

/-!
# Scaling by powers of ten

The reader of numbers rounds three times: the significand, the power of ten, and their product or
quotient. Nothing is lost where the first two are numbers that a double has, and then the outcome is
the correct rounding. In general it is some units of the last place away from it at most.
-/

namespace SeriesQuery.Json

open BinaryFormat Double

theorem powerOfTen_eq_nearest (n : ℕ) : powerOfTen n = nearest (10 ^ n) := by
  rw [powerOfTen, ofNat_eq_nearest]
  push_cast
  rfl

theorem signed_ofMagnitude (negative : Bool) {bits : ℕ} (h : bits ≤ double.infinity) :
    signed negative (ofMagnitude false bits) = ofMagnitude negative bits := by
  cases negative with
  | true => exact negate_ofMagnitude (h.trans_lt (by decide))
  | false => rfl

/-! ### Numbers in range -/

theorem value_infinity_double : double.value double.infinity = 2 ^ 1024 :=
  (double.value_binade 2046).trans (zpow_ofNat 2 1024)

theorem ten_pow_le {n : ℕ} (h : n ≤ 308) : (10 : ℚ) ^ n ≤ double.value double.infinity := by
  rw [value_infinity_double]
  calc (10 : ℚ) ^ n ≤ 10 ^ 308 := pow_le_pow_right₀ (by norm_num) h
    _ = (10 ^ 77) ^ 4 := pow_mul 10 77 4
    _ ≤ (2 ^ 256) ^ 4 := by gcongr; norm_num
    _ = 2 ^ 1024 := (pow_mul 2 256 4).symm

theorem significand_le {n : ℕ} (h : n ≤ significandLimit) : (n : ℚ) ≤ 2 ^ 64 := by
  have hlt : n ≤ 2 ^ 64 := h.trans (Nat.sub_le _ _)
  exact_mod_cast hlt

/-! ### Exact significands and powers -/

/-- A whole number whose odd part the significand has room for. -/
theorem isExact_natCast {m k : ℕ} (h : m < 2 ^ 53) : double.IsExact ((m * 2 ^ k : ℕ) : ℚ) :=
  ⟨m, k, by push_cast; rw [zpow_natCast], h, by rw [show double.leastExponent = -1074 from rfl]; omega⟩

theorem isExact_ten_pow {n : ℕ} (h : n ≤ 22) : double.IsExact (10 ^ n) := by
  have hfive : 5 ^ n < 2 ^ 53 := (Nat.pow_le_pow_right (by decide) h).trans_lt (by decide)
  have hexact := isExact_natCast (k := n) hfive
  rw [← Nat.mul_pow] at hexact
  exact_mod_cast hexact

theorem absValue_ofNat {n : ℕ} (h : double.IsExact n) (hlimit : n ≤ significandLimit) :
    (ofNat n).absValue = n := by
  rw [ofNat_eq_nearest]
  refine absValue_nearest h (Nat.cast_nonneg n) ((significand_le hlimit).trans_lt ?_)
  rw [value_infinity_double]
  exact pow_lt_pow_right₀ one_lt_two (by norm_num)

theorem absValue_powerOfTen {n : ℕ} (h : n ≤ 22) : (powerOfTen n).absValue = 10 ^ n := by
  rw [powerOfTen_eq_nearest]
  refine absValue_nearest (isExact_ten_pow h) (by positivity) ?_
  exact (pow_lt_pow_right₀ (by norm_num) (by omega : n < 308)).trans_le (ten_pow_le le_rfl)

/-- Far below infinity nothing is rounded up to it. -/
theorem isInfinite_nearest {q : ℚ} (h : q ≤ 2 ^ 1023) : (nearest q).isInfinite = false := by
  have hbits : double.value ((2045 + 1) * 2 ^ double.fractionBits) = 2 ^ 1023 :=
    (double.value_binade 2045).trans (zpow_ofNat 2 1023)
  have hmono := double.round_mono (h.trans_eq hbits.symm)
  rw [double.round_value (by decide)] at hmono
  rw [isInfinite, magnitude_nearest, beq_eq_false_iff_ne]
  exact (hmono.trans_lt (by decide)).ne

/-- Where the significand and the power of ten are exact, their product or quotient is rounded once. -/
theorem scaled?_of_isExact {significand : ℕ} {exponent : ℤ} (h : double.IsExact significand)
    (hlimit : significand ≤ significandLimit) (hexponent : exponent.natAbs ≤ 22) :
    scaled? significand exponent = some (nearest (significand * 10 ^ exponent)) := by
  have hvalue := absValue_ofNat h hlimit
  rw [scaled?]
  rcases le_or_gt 0 exponent with hup | hdown
  · obtain ⟨n, rfl⟩ := Int.eq_ofNat_of_zero_le hup
    have hn : n ≤ 22 := hexponent
    have hproduct : (ofNat significand).mulMagnitude (powerOfTen n) =
        nearest (significand * 10 ^ n) := by
      rw [mulMagnitude_eq_nearest, hvalue, absValue_powerOfTen hn]
    have hfinite : (nearest (significand * 10 ^ n)).isInfinite = false := by
      refine isInfinite_nearest ?_
      calc (significand : ℚ) * 10 ^ n ≤ 2 ^ 64 * 10 ^ 22 :=
            mul_le_mul (significand_le hlimit) (pow_le_pow_right₀ (by norm_num) hn) (by positivity)
              (by positivity)
        _ ≤ 2 ^ 200 := by norm_num
        _ ≤ 2 ^ 1023 := pow_le_pow_right₀ one_le_two (by norm_num)
    simp only [hup, if_true, Int.toNat_natCast, hproduct, hfinite, zpow_natCast]
    rw [if_pos (by omega)]
    rfl
  · obtain ⟨n, rfl⟩ := Int.exists_eq_neg_ofNat hdown.le
    have hn : n ≤ 22 := by omega
    have hvaluePower := absValue_powerOfTen hn
    have hquotient : (ofNat significand).divMagnitude (powerOfTen n) =
        nearest (significand * 10 ^ (-(n : ℤ))) := by
      have hne : (powerOfTen n).absValue ≠ 0 := by
        rw [hvaluePower]
        positivity
      rw [divMagnitude_eq_nearest _ hne, hvalue, hvaluePower, zpow_neg, zpow_natCast, div_eq_mul_inv]
    have hsteps : (n - 1) / 308 = 0 := Nat.div_eq_of_lt (by omega)
    simp only [if_neg (not_le.2 hdown), Int.natAbs_neg, Int.natAbs_natCast, hsteps, Nat.mul_zero,
      Nat.sub_zero, divideLarge, hquotient]

/-! ### Rounded significands and powers -/

/-- The relative error of a product. -/
theorem abs_mul_sub_mul_le {x y p q a b : ℚ} (hy : 0 ≤ y) (hq : 0 ≤ q) (hx : |x - y| ≤ a * y)
    (hp : |p - q| ≤ b * q) : |x * p - y * q| ≤ (a + b + a * b) * (y * q) := by
  have hpq : |p| ≤ (1 + b) * q := by
    have htriangle := abs_sub_abs_le_abs_sub p q
    rw [abs_of_nonneg hq] at htriangle
    linarith
  have herror : 0 ≤ a * y := (abs_nonneg _).trans hx
  calc |x * p - y * q| = |(x - y) * p + y * (p - q)| := by ring_nf
    _ ≤ |x - y| * |p| + y * |p - q| := by
      refine (abs_add_le _ _).trans (le_of_eq ?_)
      rw [abs_mul, abs_mul, abs_of_nonneg hy]
    _ ≤ a * y * ((1 + b) * q) + y * (b * q) := by gcongr
    _ = (a + b + a * b) * (y * q) := by ring

/-- The error of a quotient: the dividend may be off by a fixed amount too. -/
theorem abs_div_sub_div_le {x y p q a b t : ℚ} (hy : 0 ≤ y) (hq : 0 < q) (hb : b < 1)
    (hx : |x - y| ≤ a * y + t) (hp : |p - q| ≤ b * q) :
    |x / p - y / q| ≤ ((a + b) * (y / q) + t / q) / (1 - b) := by
  have hlow : (1 - b) * q ≤ p := by linarith [(abs_le.1 hp).1]
  have hscale : 0 < (1 - b) * q := mul_pos (by linarith) hq
  have hpos : 0 < p := hscale.trans_le hlow
  have herror : 0 ≤ a * y + t := (abs_nonneg _).trans hx
  have hpower : 0 ≤ b * q := (abs_nonneg _).trans hp
  have hb : 0 ≤ b := nonneg_of_mul_nonneg_left hpower hq
  calc |x / p - y / q| = |(x - y) * q - y * (p - q)| / (p * q) := by
        rw [← abs_of_pos (mul_pos hpos hq), ← abs_div]
        congr 1
        field_simp
        ring
    _ ≤ ((a * y + t) * q + y * (b * q)) / (p * q) := by
      gcongr
      refine (abs_sub _ _).trans ?_
      rw [abs_mul, abs_mul, abs_of_nonneg hy, abs_of_pos hq]
      gcongr
    _ = (a * y + t + b * y) / p := by
      field_simp
    _ ≤ (a * y + t + b * y) / ((1 - b) * q) := by gcongr
    _ = ((a + b) * (y / q) + t / q) / (1 - b) := by
      field_simp
      ring

/-- Two numbers near the same one are rounded to bits near each other. -/
theorem round_near {w v h : ℚ} (hh : 0 < h) (hwpos : 0 < w)
    (hw : |w - h| ≤ 43 / 10 / 2 ^ 53 * h + 2 ^ double.leastExponent / 16)
    (hv : |v - h| ≤ h / 2 ^ 60) :
    double.round w ≤ double.round v + 5 ∧ double.round v ≤ double.round w + 5 := by
  obtain ⟨hwlow, hwhigh⟩ := abs_le.1 hw
  obtain ⟨hvlow, hvhigh⟩ := abs_le.1 hv
  have hvpos : 0 < v := by
    have hsmall : h / 2 ^ 60 < h := div_lt_self hh (by norm_num)
    linarith
  have hwunit := double.div_le_unit hwpos
  have hvunit := double.div_le_unit hvpos
  have hwleast := double.least_le_unit w
  have hvleast := double.least_le_unit v
  rw [show double.fractionBits + 1 = 53 from rfl] at hwunit hvunit
  constructor
  · refine double.round_le_round_add hvpos ?_
    push_cast
    linarith
  · refine double.round_le_round_add hwpos ?_
    push_cast
    linarith

/-- The relative error of a rounding. -/
theorem abs_absValue_nearest_sub_le {q : ℚ} (hlow : 1 ≤ q)
    (hhigh : q ≤ double.value double.infinity) :
    |(nearest q).absValue - q| ≤ 1 / 2 ^ 53 * q := by
  have hnormal : (2 : ℚ) ^ double.fractionBits * 2 ^ double.leastExponent ≤ q := by
    refine le_trans ?_ hlow
    rw [← zpow_natCast, ← zpow_add₀ two_ne_zero]
    exact zpow_le_one_of_nonpos₀ one_le_two (by decide)
  have hunit := double.unit_le_of_normal hnormal
  have hround := double.abs_sub_value_round_le (by linarith) hhigh
  rw [show double.fractionBits = 52 from rfl] at hunit
  rw [absValue, magnitude_nearest, abs_sub_comm]
  linarith

section Near

variable {significand : ℕ} {exponent : ℤ} {x : Double} {v : ℚ}

theorem abs_absValue_ofNat_sub_le (hpos : 0 < significand) (hlimit : significand ≤ significandLimit) :
    |(ofNat significand).absValue - significand| ≤ 1 / 2 ^ 53 * significand := by
  rw [ofNat_eq_nearest]
  refine abs_absValue_nearest_sub_le (by exact_mod_cast hpos) ((significand_le hlimit).trans ?_)
  rw [value_infinity_double]
  exact pow_le_pow_right₀ one_le_two (by norm_num)

theorem abs_absValue_powerOfTen_sub_le {n : ℕ} (h : n ≤ 308) :
    |(powerOfTen n).absValue - 10 ^ n| ≤ 1 / 2 ^ 53 * 10 ^ n := by
  rw [powerOfTen_eq_nearest]
  exact abs_absValue_nearest_sub_le (one_le_pow₀ (by norm_num)) (ten_pow_le h)

/-- A number with a small relative error is still positive. -/
theorem pos_of_abs_sub_le {p q a : ℚ} (hq : 0 < q) (ha : a < 1) (h : |p - q| ≤ a * q) : 0 < p := by
  have hlow := (abs_le.1 h).1
  nlinarith

/-- The bits are those of a correct rounding up to five units of the last place. -/
def NearlyRounds (x : Double) (v : ℚ) : Prop :=
  ∃ bits, x = ofMagnitude false bits ∧ bits ≤ double.infinity ∧
    bits ≤ double.round v + 5 ∧ double.round v ≤ bits + 5

theorem nearlyRounds_nearest {w h : ℚ} (hh : 0 < h) (hwpos : 0 < w)
    (hw : |w - h| ≤ 43 / 10 / 2 ^ 53 * h + 2 ^ double.leastExponent / 16)
    (hv : |v - h| ≤ h / 2 ^ 60) : NearlyRounds (nearest w) v :=
  ⟨double.round w, rfl, double.round_le_infinity w, round_near hh hwpos hw hv⟩

theorem nearlyRounds_of_relative {w h : ℚ} (hh : 0 < h) (hw : |w - h| ≤ 3 / 2 ^ 53 * h)
    (hv : |v - h| ≤ h / 2 ^ 60) : NearlyRounds (nearest w) v := by
  refine nearlyRounds_nearest hh (pos_of_abs_sub_le hh (by norm_num) hw) (hw.trans ?_) hv
  have hleast : (0 : ℚ) < 2 ^ double.leastExponent := by positivity
  linarith

variable {n : ℕ}

theorem nearlyRounds_product (hpos : 0 < significand) (hlimit : significand ≤ significandLimit)
    (hn : n ≤ 308) (hv : |v - significand * 10 ^ n| ≤ significand * 10 ^ n / 2 ^ 60) :
    NearlyRounds ((ofNat significand).mulMagnitude (powerOfTen n)) v := by
  have hS : (0 : ℚ) < significand := by exact_mod_cast hpos
  have hh : (0 : ℚ) < significand * 10 ^ n := by positivity
  rw [mulMagnitude_eq_nearest]
  refine nearlyRounds_of_relative hh ?_ hv
  refine (abs_mul_sub_mul_le hS.le (by positivity) (abs_absValue_ofNat_sub_le hpos hlimit)
    (abs_absValue_powerOfTen_sub_le hn)).trans ?_
  exact mul_le_mul_of_nonneg_right (by norm_num) hh.le

/-- The relative error of the first quotient. -/
theorem abs_quotient_sub_le (hpos : 0 < significand) (hlimit : significand ≤ significandLimit)
    (hn : n ≤ 308) :
    |(ofNat significand).absValue / (powerOfTen n).absValue - significand / 10 ^ n| ≤
      21 / 10 / 2 ^ 53 * (significand / 10 ^ n) := by
  have hS : (0 : ℚ) < significand := by exact_mod_cast hpos
  have hsignificand : |(ofNat significand).absValue - significand| ≤
      1 / 2 ^ 53 * significand + 0 := by
    rw [add_zero]
    exact abs_absValue_ofNat_sub_le hpos hlimit
  refine (abs_div_sub_div_le hS.le (by positivity) (by norm_num) hsignificand
    (abs_absValue_powerOfTen_sub_le hn)).trans ?_
  rw [zero_div, add_zero, div_le_iff₀ (by norm_num), mul_right_comm]
  exact mul_le_mul_of_nonneg_right (by norm_num) (by positivity)

theorem absValue_powerOfTen_ne_zero (hn : n ≤ 308) : (powerOfTen n).absValue ≠ 0 :=
  (pos_of_abs_sub_le (by positivity) (by norm_num) (abs_absValue_powerOfTen_sub_le hn)).ne'

theorem nearlyRounds_quotient (hpos : 0 < significand) (hlimit : significand ≤ significandLimit)
    (hn : n ≤ 308) (hv : |v - significand / 10 ^ n| ≤ significand / 10 ^ n / 2 ^ 60) :
    NearlyRounds ((ofNat significand).divMagnitude (powerOfTen n)) v := by
  have hS : (0 : ℚ) < significand := by exact_mod_cast hpos
  have hh : (0 : ℚ) < significand / 10 ^ n := by positivity
  rw [divMagnitude_eq_nearest _ (absValue_powerOfTen_ne_zero hn)]
  refine nearlyRounds_of_relative hh ((abs_quotient_sub_le hpos hlimit hn).trans ?_) hv
  exact mul_le_mul_of_nonneg_right (by norm_num) hh.le

/-- The least positive double is far smaller than what the first division leaves. -/
theorem least_le_quotient (hpos : 0 < significand) :
    (2 : ℚ) ^ double.leastExponent ≤ significand / 10 ^ 308 / 2 ^ 50 := by
  have hS : (1 : ℚ) ≤ significand := by exact_mod_cast hpos
  have hpow := ten_pow_le (le_refl 308)
  rw [value_infinity_double] at hpow
  calc (2 : ℚ) ^ double.leastExponent = 1 / 2 ^ 1024 / 2 ^ 50 := by
        rw [div_div, ← pow_add, one_div, ← zpow_natCast, ← zpow_neg]
        rfl
    _ ≤ significand / 10 ^ 308 / 2 ^ 50 := by gcongr

/-- The first division may leave a number below the normal ones, where the error is a fixed amount. -/
theorem abs_first_quotient_sub_le (hpos : 0 < significand) (hlimit : significand ≤ significandLimit) :
    |((ofNat significand).divMagnitude (powerOfTen 308)).absValue - (significand : ℚ) / 10 ^ 308| ≤
      32 / 10 / 2 ^ 53 * ((significand : ℚ) / 10 ^ 308) + 2 ^ double.leastExponent / 2 := by
  have hS : (0 : ℚ) < significand := by exact_mod_cast hpos
  have hfirst := abs_quotient_sub_le hpos hlimit (le_refl 308)
  have hsmall : (significand : ℚ) / 10 ^ 308 ≤ 2 ^ 64 :=
    (div_le_self hS.le (one_le_pow₀ (by norm_num))).trans (significand_le hlimit)
  have hypos : (0 : ℚ) < significand / 10 ^ 308 := by positivity
  rw [divMagnitude_eq_nearest _ (absValue_powerOfTen_ne_zero le_rfl)]
  generalize (ofNat significand).absValue / (powerOfTen 308).absValue = z at hfirst ⊢
  generalize (significand : ℚ) / 10 ^ 308 = y at hfirst hsmall hypos ⊢
  have hzpos : 0 < z := pos_of_abs_sub_le hypos (by norm_num) hfirst
  obtain ⟨hfirstlow, hfirsthigh⟩ := abs_le.1 hfirst
  have hzinfinity : z ≤ double.value double.infinity := by
    rw [value_infinity_double]
    have hpow : (2 : ℚ) ^ 65 ≤ 2 ^ 1024 := pow_le_pow_right₀ one_le_two (by norm_num)
    exact le_trans (by linarith) hpow
  have hzunit := double.unit_le hzpos
  rw [show double.fractionBits = 52 from rfl] at hzunit
  obtain ⟨hroundlow, hroundhigh⟩ := abs_le.1 (double.abs_sub_value_round_le hzpos hzinfinity)
  rw [absValue, magnitude_nearest, abs_le]
  constructor <;> linarith

theorem absValue_first_quotient_le (hpos : 0 < significand)
    (hlimit : significand ≤ significandLimit) :
    ((ofNat significand).divMagnitude (powerOfTen 308)).absValue ≤
      2 * ((significand : ℚ) / 10 ^ 308) := by
  have hhigh := (abs_le.1 (abs_first_quotient_sub_le hpos hlimit)).2
  have hleast := least_le_quotient hpos
  have hypos : (0 : ℚ) < significand / 10 ^ 308 := by positivity
  generalize (significand : ℚ) / 10 ^ 308 = y at hhigh hleast hypos ⊢
  linarith

/-- The next power of ten makes the fixed amount smaller. -/
theorem nearlyRounds_second_quotient (hpos : 0 < significand)
    (hlimit : significand ≤ significandLimit) (hn : 0 < n) (hn' : n ≤ 308)
    (hv : |v - (significand : ℚ) / 10 ^ 308 / 10 ^ n| ≤
      (significand : ℚ) / 10 ^ 308 / 10 ^ n / 2 ^ 60) :
    NearlyRounds (((ofNat significand).divMagnitude (powerOfTen 308)).divMagnitude (powerOfTen n))
      v := by
  have hS : (0 : ℚ) < significand := by exact_mod_cast hpos
  have hypos : (0 : ℚ) < significand / 10 ^ 308 := by positivity
  have hleast := least_le_quotient hpos
  have hunit : (0 : ℚ) < 2 ^ double.leastExponent := by positivity
  have hfirst := abs_first_quotient_sub_le hpos hlimit
  have hpower := abs_absValue_powerOfTen_sub_le hn'
  rw [divMagnitude_eq_nearest _ (absValue_powerOfTen_ne_zero hn')]
  generalize (significand : ℚ) / 10 ^ 308 = y at hfirst hleast hypos hv
  have hquotient := abs_div_sub_div_le hypos.le (by positivity) (by norm_num) hfirst hpower
  refine nearlyRounds_nearest (by positivity) (div_pos ?_ ?_) (hquotient.trans ?_) hv
  · have hlow := (abs_le.1 hfirst).1
    linarith
  · exact pos_of_abs_sub_le (by positivity) (by norm_num) hpower
  · have hh : 0 < y / 10 ^ n := by positivity
    have hten : (10 : ℚ) ≤ 10 ^ n := le_self_pow₀ (by norm_num) hn.ne'
    have hfixed : (2 : ℚ) ^ double.leastExponent / 2 / 10 ^ n ≤ 2 ^ double.leastExponent / 2 / 10 :=
      div_le_div_of_nonneg_left (by positivity) (by norm_num) hten
    rw [div_le_iff₀ (by norm_num)]
    linarith

/-! ### All exponents -/

theorem nearest_of_isZero {q : ℚ} (h : (nearest q).isZero) : nearest q = nearest 0 := by
  rw [isZero, beq_iff_eq, magnitude_nearest] at h
  rw [nearest, nearest, h, double.round_of_lt_half (by positivity)]

theorem nearest_of_lt {q : ℚ} (h : q < 2 ^ (double.leastExponent - 1)) : nearest q = nearest 0 := by
  apply nearest_of_isZero
  rw [isZero, magnitude_nearest, double.round_of_lt_half h]
  rfl

theorem absValue_nearest_zero : (nearest 0).absValue = 0 := by
  rw [absValue, magnitude_nearest, double.round_of_lt_half (by positivity), double.value_zero]

theorem zero_divMagnitude (hn : n ≤ 308) :
    (nearest 0).divMagnitude (powerOfTen n) = nearest 0 := by
  rw [divMagnitude_eq_nearest _ (absValue_powerOfTen_ne_zero hn), absValue_nearest_zero, zero_div]

theorem divideLarge_zero (steps : ℕ) : divideLarge steps (nearest 0) = nearest 0 := by
  cases steps with
  | zero => rfl
  | succ steps => exact if_pos (isZero_iff.2 absValue_nearest_zero)

theorem not_isZero_ofNat (hpos : 0 < significand) (hlimit : significand ≤ significandLimit) :
    ¬(ofNat significand).isZero := by
  have hS : (0 : ℚ) < significand := by exact_mod_cast hpos
  rw [isZero_iff]
  exact (pos_of_abs_sub_le hS (by norm_num) (abs_absValue_ofNat_sub_le hpos hlimit)).ne'

/-- What lies below every positive double, by far. -/
theorem tiny_lt {q : ℚ} (h : q ≤ 2 ^ 66 / 10 ^ 616) : q < 2 ^ (double.leastExponent - 1) := by
  have hpow : (2 : ℚ) ^ 66 * 2 ^ 1075 < 10 ^ 616 := by
    calc (2 : ℚ) ^ 66 * 2 ^ 1075 = (2 ^ 163) ^ 7 := by rw [← pow_add, ← pow_mul]
      _ < (10 ^ 88) ^ 7 := by gcongr; norm_num
      _ = 10 ^ 616 := by rw [← pow_mul]
  refine h.trans_lt ?_
  calc (2 : ℚ) ^ 66 / 10 ^ 616 < 1 / 2 ^ 1075 := by
        rw [div_lt_div_iff₀ (by positivity) (by positivity), one_mul]
        exact hpow
    _ = 2 ^ (double.leastExponent - 1) := by
      rw [one_div, ← zpow_natCast, ← zpow_neg]
      rfl

theorem divideLarge_one (hpos : 0 < significand) (hlimit : significand ≤ significandLimit) :
    divideLarge 1 (ofNat significand) = (ofNat significand).divMagnitude (powerOfTen 308) := by
  rw [divideLarge, if_neg (not_isZero_ofNat hpos hlimit), divideLarge]

theorem half_le_absValue_powerOfTen (hn : n ≤ 308) :
    (10 : ℚ) ^ n / 2 ≤ (powerOfTen n).absValue := by
  have hlow := (abs_le.1 (abs_absValue_powerOfTen_sub_le hn)).1
  have hpos : (0 : ℚ) < 10 ^ n := by positivity
  linarith

/-- Two divisions by the three hundred and eighth power leave nothing of a significand. -/
theorem divideLarge_eq_zero (hpos : 0 < significand) (hlimit : significand ≤ significandLimit)
    (steps : ℕ) : divideLarge (steps + 2) (ofNat significand) = nearest 0 := by
  rw [divideLarge, if_neg (not_isZero_ofNat hpos hlimit), divideLarge]
  split_ifs with hzero
  · rw [divMagnitude_eq_nearest _ (absValue_powerOfTen_ne_zero le_rfl)] at hzero ⊢
    exact nearest_of_isZero hzero
  · have hlow := half_le_absValue_powerOfTen (le_refl 308)
    have hhigh : ((ofNat significand).divMagnitude (powerOfTen 308)).absValue ≤
        2 ^ 65 / 10 ^ 308 := by
      calc _ ≤ 2 * ((significand : ℚ) / 10 ^ 308) := absValue_first_quotient_le hpos hlimit
        _ ≤ 2 * (2 ^ 64 / 10 ^ 308) := by gcongr; exact significand_le hlimit
        _ = 2 ^ 65 / 10 ^ 308 := by rw [← mul_div_assoc, ← pow_succ']
    have htiny : ((ofNat significand).divMagnitude (powerOfTen 308)).absValue /
        (powerOfTen 308).absValue ≤ 2 ^ 66 / 10 ^ 616 := by
      have hscale (t : ℚ) : 2 ^ 65 / t / (t / 2) = 2 ^ 66 / (t * t) := by ring
      calc _ ≤ (2 : ℚ) ^ 65 / 10 ^ 308 / (10 ^ 308 / 2) := by gcongr
        _ = 2 ^ 66 / 10 ^ 616 := by rw [hscale, ← pow_add]
    rw [divMagnitude_eq_nearest _ (absValue_powerOfTen_ne_zero le_rfl),
      nearest_of_lt (tiny_lt htiny), divideLarge_zero]

theorem scaled?_zero (exponent : ℤ) : scaled? 0 exponent = some (nearest 0) := by
  have hofNat : ofNat 0 = nearest 0 := by rw [ofNat_eq_nearest, Nat.cast_zero]
  simp only [scaled?, hofNat]
  split_ifs with hup hsmall hinfinite hzero
  · rw [mulMagnitude_eq_nearest, absValue_nearest_zero, zero_mul,
      isInfinite_nearest (by positivity)] at hinfinite
    cases hinfinite
  · rw [mulMagnitude_eq_nearest, absValue_nearest_zero, zero_mul]
  · rfl
  · exact absurd (isZero_iff.2 absValue_nearest_zero) hzero
  · rw [divideLarge_zero, zero_divMagnitude (by omega)]

theorem nearlyRounds_zero (h : v < 2 ^ (double.leastExponent - 1)) : NearlyRounds (nearest 0) v := by
  have hzero : double.round 0 = 0 := double.round_of_lt_half (by positivity)
  refine ⟨double.round 0, rfl, double.round_le_infinity 0, ?_⟩
  rw [hzero, double.round_of_lt_half h]
  decide

/-- What is made of a power below one. -/
theorem scaled?_neg {n : ℕ} (hn : 0 < n) :
    scaled? significand (-(n : ℤ)) = some ((divideLarge ((n - 1) / 308) (ofNat significand)).divMagnitude
      (powerOfTen (n - 308 * ((n - 1) / 308)))) := by
  have hdown : ¬(0 : ℤ) ≤ -(n : ℤ) := by omega
  simp only [scaled?, if_neg hdown, Int.natAbs_neg, Int.natAbs_natCast]

/-- What the reader makes of a number is nearly its rounding. -/
theorem nearlyRounds_of_scaled? (hlimit : significand ≤ significandLimit)
    (h : scaled? significand exponent = some x)
    (hv : |v - significand * 10 ^ exponent| ≤ significand * 10 ^ exponent / 2 ^ 60) :
    NearlyRounds x v := by
  rcases Nat.eq_zero_or_pos significand with rfl | hpos
  · rw [scaled?_zero] at h
    obtain rfl := Option.some.inj h
    rw [Nat.cast_zero, zero_mul, sub_zero, zero_div, abs_nonpos_iff] at hv
    rw [hv]
    exact nearlyRounds_zero (by positivity)
  rcases le_or_gt 0 exponent with hup | hdown
  · obtain ⟨n, rfl⟩ := Int.eq_ofNat_of_zero_le hup
    rw [zpow_natCast] at hv
    simp only [scaled?, hup, if_true, Int.toNat_natCast] at h
    split_ifs at h with hsmall hinfinite hzero
    · obtain rfl := Option.some.inj h
      exact nearlyRounds_product hpos hlimit (by omega) hv
    · exact absurd hzero (not_isZero_ofNat hpos hlimit)
  · obtain ⟨n, rfl⟩ := Int.exists_eq_neg_ofNat hdown.le
    rw [scaled?_neg (by omega)] at h
    obtain rfl := Option.some.inj h
    rw [zpow_neg, zpow_natCast, ← div_eq_mul_inv] at hv
    obtain hsteps | hsteps | hsteps :
        (n - 1) / 308 = 0 ∨ (n - 1) / 308 = 1 ∨ 2 ≤ (n - 1) / 308 := by omega
    · rw [hsteps, Nat.mul_zero, Nat.sub_zero]
      exact nearlyRounds_quotient hpos hlimit (by omega) hv
    · obtain ⟨r, rfl⟩ := Nat.exists_eq_add_of_le (show 308 ≤ n by omega)
      have hremainder : 308 + r - 308 * 1 = r := by omega
      rw [pow_add, ← div_div] at hv
      rw [hsteps, hremainder, divideLarge_one hpos hlimit]
      exact nearlyRounds_second_quotient hpos hlimit (by omega) (by omega) hv
    · obtain ⟨steps, hsteps⟩ := Nat.exists_eq_add_of_le' hsteps
      rw [hsteps, divideLarge_eq_zero hpos hlimit, zero_divMagnitude (by omega)]
      refine nearlyRounds_zero (tiny_lt ?_)
      have hnonneg : (0 : ℚ) ≤ significand / 10 ^ n := by positivity
      have hnear : v ≤ 2 * ((significand : ℚ) / 10 ^ n) := by linarith [(abs_le.1 hv).2]
      have hle : (significand : ℚ) / 10 ^ n ≤ 2 ^ 64 / 10 ^ 616 :=
        div_le_div₀ (by positivity) (significand_le hlimit) (by positivity)
          (pow_le_pow_right₀ (by norm_num) (by omega))
      calc v ≤ 2 * ((significand : ℚ) / 10 ^ n) := hnear
        _ ≤ 2 * (2 ^ 64 / 10 ^ 616) := by gcongr
        _ = 2 ^ 65 / 10 ^ 616 := by rw [← mul_div_assoc, ← pow_succ']
        _ ≤ 2 ^ 66 / 10 ^ 616 := by gcongr <;> norm_num

end Near

end SeriesQuery.Json
