import Mathlib.Algebra.Order.Field.Power
import Mathlib.Data.Int.Log
import Mathlib.Data.Rat.Floor
import Mathlib.Tactic.FieldSimp
import Mathlib.Tactic.Linarith
import Mathlib.Tactic.Positivity
import Mathlib.Tactic.Ring
import SeriesQuery.Number.Binary

/-!
# Correct rounding

Bits without a sign denote a rational number, and this order of the bits is that of the numbers. A
quotient is rounded in whole units of the last place, so the bits found for it are those of the
nearest number of the format. A number of the format is its own rounding, and rounding keeps the
order.
-/

namespace SeriesQuery

/-! ### Nearest integers -/

/-- The nearest integer, a half to the even one. -/
def roundEven (q : ℚ) : ℤ :=
  if 2 * Int.fract q < 1 then ⌊q⌋
  else if 1 < 2 * Int.fract q then ⌊q⌋ + 1
  else ⌊q⌋ + ⌊q⌋ % 2

theorem roundQuotient_eq (num : ℕ) {den : ℕ} (hden : 0 < den) :
    (roundQuotient num den : ℤ) = roundEven (num / den) := by
  have hpos : (0 : ℚ) < den := by exact_mod_cast hden
  have hfract : 2 * Int.fract ((num : ℚ) / den) = (2 * (num % den) : ℕ) / den := by
    rw [Int.fract_div_natCast_eq_div_natCast_mod]
    push_cast
    ring
  have hlow : 2 * Int.fract ((num : ℚ) / den) < 1 ↔ 2 * (num % den) < den := by
    rw [hfract, div_lt_one hpos, Nat.cast_lt]
  have hhigh : 1 < 2 * Int.fract ((num : ℚ) / den) ↔ den < 2 * (num % den) := by
    rw [hfract, one_lt_div hpos, Nat.cast_lt]
  simp only [roundQuotient, roundEven, hlow, hhigh, Rat.floor_natCast_div_natCast]
  split_ifs <;> push_cast <;> rfl

theorem roundEven_intCast (n : ℤ) : roundEven n = n := by
  rw [roundEven, if_pos (by simp), Int.floor_intCast]

/-- A rounding is off by half a unit at most. -/
theorem abs_sub_roundEven_le (q : ℚ) : |q - roundEven q| ≤ 1 / 2 := by
  have hfract : q = ⌊q⌋ + Int.fract q := (Int.floor_add_fract q).symm
  have hnonneg := Int.fract_nonneg q
  have hlt := Int.fract_lt_one q
  rw [roundEven, abs_le]
  split_ifs with hlow hhigh
  · constructor <;> linarith
  · push_cast
    constructor <;> linarith
  · have hhalf : Int.fract q = 1 / 2 := by linarith
    rcases Int.emod_two_eq_zero_or_one ⌊q⌋ with heven | hodd
    · rw [heven]
      push_cast
      constructor <;> linarith
    · rw [hodd]
      push_cast
      constructor <;> linarith

theorem roundEven_mono {p q : ℚ} (h : p ≤ q) : roundEven p ≤ roundEven q := by
  by_contra hlt
  have hstep : (roundEven q : ℚ) + 1 ≤ roundEven p := by exact_mod_cast not_le.1 hlt
  have hp := abs_le.1 (abs_sub_roundEven_le p)
  have hq := abs_le.1 (abs_sub_roundEven_le q)
  -- Only one and the same half could be rounded both ways.
  obtain rfl : p = q := by linarith
  exact hlt le_rfl

theorem roundEven_nonneg {q : ℚ} (h : 0 ≤ q) : 0 ≤ roundEven q := by
  have hmono := roundEven_mono h
  rwa [← Int.cast_zero, roundEven_intCast] at hmono

/-- No integer is nearer, and if another one is as near then the even one is taken. -/
theorem roundEven_nearest (q : ℚ) (n : ℤ) :
    |q - roundEven q| ≤ |q - n| ∧
      (|q - roundEven q| = |q - n| → n = roundEven q ∨ roundEven q % 2 = 0) := by
  have hhalf := abs_sub_roundEven_le q
  rcases eq_or_ne n (roundEven q) with rfl | hne
  · exact ⟨le_rfl, fun _ => .inl rfl⟩
  have hapart : (1 : ℚ) ≤ |q - roundEven q| + |q - n| := by
    have hone : (1 : ℚ) ≤ |(n : ℚ) - roundEven q| := by
      exact_mod_cast Int.one_le_abs (sub_ne_zero.2 hne)
    refine hone.trans ((abs_sub_le _ q _).trans (le_of_eq ?_))
    rw [abs_sub_comm (n : ℚ) q, add_comm]
  refine ⟨by linarith, fun htie => .inr ?_⟩
  have hfract : q = ⌊q⌋ + Int.fract q := (Int.floor_add_fract q).symm
  have hexact : |q - roundEven q| = 1 / 2 := by linarith
  have hsplit := (abs_eq one_half_pos.le).1 hexact
  have hnonneg := Int.fract_nonneg q
  have hlt := Int.fract_lt_one q
  rw [roundEven] at hsplit ⊢
  split_ifs at hsplit ⊢ with hlow hhigh
  · rcases hsplit with h | h <;> linarith
  · push_cast at hsplit
    rcases hsplit with h | h <;> linarith
  · omega

/-! ### Binary logarithms -/

theorem zpow_mul_pow_toNat {b : ℚ} (hb : b ≠ 0) (n : ℤ) : b ^ n * b ^ (-n).toNat = b ^ n.toNat := by
  rw [← zpow_natCast, ← zpow_natCast, ← zpow_add₀ hb]
  congr 1
  omega

/-- Powers of a base on the two sides of a quotient are one power of the base. -/
theorem quotient_mul_zpow {b : ℕ} (hb : b ≠ 0) (n : ℤ) (num den : ℕ) :
    ((num * b ^ n.toNat : ℕ) : ℚ) / (den * b ^ (-n).toNat : ℕ) = num / den * b ^ n := by
  have hbase : (b : ℚ) ≠ 0 := by exact_mod_cast hb
  push_cast
  rw [← zpow_mul_pow_toNat hbase n, ← mul_assoc, mul_div_mul_right _ _ (pow_ne_zero _ hbase)]
  ring

theorem log_eq_of_bounds {q : ℚ} {n : ℤ} (hlow : 2 ^ n ≤ q) (hhigh : q < 2 ^ (n + 1)) :
    Int.log 2 q = n := by
  have hpos : 0 < q := lt_of_lt_of_le (by positivity) hlow
  have hle : n ≤ Int.log 2 q := (Int.zpow_le_iff_le_log one_lt_two hpos).1 hlow
  have hlt : Int.log 2 q < n + 1 := (Int.lt_zpow_iff_log_lt one_lt_two hpos).1 hhigh
  omega

/-- A natural number lies between the powers of two of its logarithm and the next one. -/
theorem log2_bounds {n : ℕ} (h : 0 < n) :
    (2 : ℚ) ^ (n.log2 : ℤ) ≤ n ∧ (n : ℚ) < 2 ^ (n.log2 + 1 : ℤ) := by
  constructor
  · exact_mod_cast Nat.log2_self_le h.ne'
  · exact_mod_cast Nat.lt_log2_self

theorem logQuotient_eq {num den : ℕ} (hnum : 0 < num) (hden : 0 < den) :
    logQuotient num den = Int.log 2 ((num : ℚ) / den) := by
  obtain ⟨hnumlow, hnumhigh⟩ := log2_bounds hnum
  obtain ⟨hdenlow, hdenhigh⟩ := log2_bounds hden
  have hpos : (0 : ℚ) < den := by exact_mod_cast hden
  -- The difference of the two logarithms is right, or one too great.
  have hlow : (2 : ℚ) ^ ((num.log2 : ℤ) - den.log2 - 1) ≤ num / den := by
    rw [le_div_iff₀ hpos]
    calc (2 : ℚ) ^ ((num.log2 : ℤ) - den.log2 - 1) * den
        ≤ 2 ^ ((num.log2 : ℤ) - den.log2 - 1) * 2 ^ (den.log2 + 1 : ℤ) := by gcongr
      _ = 2 ^ (num.log2 : ℤ) := by
        rw [← zpow_add₀ two_ne_zero]
        ring_nf
      _ ≤ num := hnumlow
  have hhigh : (num : ℚ) / den < 2 ^ ((num.log2 : ℤ) - den.log2 + 1) := by
    rw [div_lt_iff₀ hpos]
    calc (num : ℚ) < 2 ^ (num.log2 + 1 : ℤ) := hnumhigh
      _ = 2 ^ ((num.log2 : ℤ) - den.log2 + 1) * 2 ^ (den.log2 : ℤ) := by
        rw [← zpow_add₀ two_ne_zero]
        ring_nf
      _ ≤ 2 ^ ((num.log2 : ℤ) - den.log2 + 1) * den := by gcongr
  have htest (n : ℤ) : den * 2 ^ n.toNat ≤ num * 2 ^ (-n).toNat ↔ (2 : ℚ) ^ n ≤ num / den := by
    have hpow : (0 : ℚ) < 2 ^ (-n).toNat := by positivity
    rw [le_div_iff₀ hpos, ← mul_le_mul_iff_left₀ hpow, mul_right_comm, zpow_mul_pow_toNat two_ne_zero,
      mul_comm _ (den : ℚ)]
    norm_cast
  rw [logQuotient]
  simp only [htest]
  split_ifs with hguess
  · exact (log_eq_of_bounds hguess hhigh).symm
  · refine (log_eq_of_bounds hlow ?_).symm
    rw [sub_add_cancel]
    exact not_le.1 hguess

/-! ### The numbers of a format -/

namespace BinaryFormat

variable (format : BinaryFormat) {bits : ℕ}

/-- How many units of the last place the bits stand for. -/
def significand (bits : ℕ) : ℕ :=
  if bits < 2 ^ format.fractionBits then bits % 2 ^ format.fractionBits
  else bits % 2 ^ format.fractionBits + 2 ^ format.fractionBits

/-- The exponent of the unit of the last place, counted from the least one. -/
def binade (bits : ℕ) : ℕ :=
  bits / 2 ^ format.fractionBits - 1

/-- The number that bits denote, as if the exponents went on without end. -/
def value (bits : ℕ) : ℚ :=
  format.significand bits * 2 ^ (format.leastExponent + format.binade bits)

theorem bits_eq (bits : ℕ) :
    bits = format.binade bits * 2 ^ format.fractionBits + format.significand bits := by
  have hpos : 0 < 2 ^ format.fractionBits := by positivity
  have hdiv := Nat.div_add_mod' bits (2 ^ format.fractionBits)
  rw [significand, binade]
  split_ifs with h
  · rw [Nat.div_eq_of_lt h, Nat.mod_eq_of_lt h, Nat.zero_sub, Nat.zero_mul, Nat.zero_add]
  · have hone : 1 ≤ bits / 2 ^ format.fractionBits :=
      (Nat.one_le_div_iff hpos).2 (Nat.le_of_not_lt h)
    rw [Nat.sub_mul, Nat.one_mul]
    have hle := Nat.mul_le_mul_right (2 ^ format.fractionBits) hone
    omega

theorem significand_lt (bits : ℕ) : format.significand bits < 2 ^ (format.fractionBits + 1) := by
  have hmod := Nat.mod_lt bits (show 0 < 2 ^ format.fractionBits by positivity)
  rw [significand, pow_succ]
  split_ifs <;> omega

theorem binade_eq_zero_or (bits : ℕ) :
    format.binade bits = 0 ∨ 2 ^ format.fractionBits ≤ format.significand bits := by
  rw [significand, binade]
  split_ifs with h
  · exact .inl (by rw [Nat.div_eq_of_lt h])
  · exact .inr (Nat.le_add_left _ _)

variable {d m : ℕ}

theorem value_of_lt (h : bits < 2 ^ format.fractionBits) :
    format.value bits = bits * 2 ^ format.leastExponent := by
  rw [value, significand, if_pos h, binade, Nat.div_eq_of_lt h, Nat.mod_eq_of_lt h, Nat.zero_sub,
    Nat.cast_zero, add_zero]

theorem value_normal (d : ℕ) {r : ℕ} (hr : r < 2 ^ format.fractionBits) :
    format.value ((d + 1) * 2 ^ format.fractionBits + r) =
      (2 ^ format.fractionBits + r : ℕ) * 2 ^ (format.leastExponent + d) := by
  have hpos : 0 < 2 ^ format.fractionBits := by positivity
  have hdiv : ((d + 1) * 2 ^ format.fractionBits + r) / 2 ^ format.fractionBits = d + 1 := by
    rw [Nat.mul_comm, Nat.mul_add_div hpos, Nat.div_eq_of_lt hr, Nat.add_zero]
  have hmod : ((d + 1) * 2 ^ format.fractionBits + r) % 2 ^ format.fractionBits = r := by
    rw [Nat.mul_comm, Nat.mul_add_mod, Nat.mod_eq_of_lt hr]
  have hge : ¬(d + 1) * 2 ^ format.fractionBits + r < 2 ^ format.fractionBits := by
    rw [Nat.add_mul]
    omega
  rw [value, significand, if_neg hge, binade, hdiv, hmod, Nat.add_sub_cancel, Nat.add_comm r]

/-- The exponent field takes a carry from the significand. -/
theorem value_add (hm : m ≤ 2 ^ (format.fractionBits + 1))
    (hd : d = 0 ∨ 2 ^ format.fractionBits ≤ m) :
    format.value (d * 2 ^ format.fractionBits + m) = m * 2 ^ (format.leastExponent + d) := by
  have hpos : 0 < 2 ^ format.fractionBits := by positivity
  rw [pow_succ] at hm
  rcases Nat.lt_or_ge m (2 ^ format.fractionBits) with hsmall | hlarge
  · obtain rfl : d = 0 := by omega
    rw [Nat.zero_mul, Nat.zero_add, value_of_lt _ hsmall, Nat.cast_zero, add_zero]
  rcases Nat.lt_or_ge m (2 ^ format.fractionBits * 2) with hnormal | hcarry
  · obtain ⟨r, rfl⟩ := Nat.exists_eq_add_of_le hlarge
    have hbits : d * 2 ^ format.fractionBits + (2 ^ format.fractionBits + r) =
        (d + 1) * 2 ^ format.fractionBits + r := by ring
    rw [hbits, value_normal _ _ (by omega)]
  · obtain rfl : m = 2 ^ format.fractionBits * 2 := by omega
    have hbits : d * 2 ^ format.fractionBits + 2 ^ format.fractionBits * 2 =
        (d + 1 + 1) * 2 ^ format.fractionBits + 0 := by ring
    rw [hbits, value_normal _ _ hpos, Nat.cast_succ, ← add_assoc, zpow_add_one₀ two_ne_zero]
    push_cast
    ring

/-- The next bits denote the number that is one unit of the last place greater. -/
theorem value_succ (bits : ℕ) :
    format.value (bits + 1) =
      format.value bits + 2 ^ (format.leastExponent + format.binade bits) := by
  have hlt := format.significand_lt bits
  have hbinade := format.binade_eq_zero_or bits
  have hnext : format.value (format.binade bits * 2 ^ format.fractionBits +
      (format.significand bits + 1)) =
        (format.significand bits + 1 : ℕ) * 2 ^ (format.leastExponent + format.binade bits) :=
    format.value_add hlt (hbinade.imp_right Nat.le_succ_of_le)
  rw [← Nat.add_assoc, ← bits_eq] at hnext
  rw [hnext, value]
  push_cast
  ring

theorem value_strictMono : StrictMono format.value := by
  refine strictMono_nat_of_lt_succ fun bits => ?_
  rw [value_succ]
  exact lt_add_of_pos_right _ (by positivity)

/-- Each binade begins with a power of two. -/
theorem value_binade (d : ℕ) :
    format.value ((d + 1) * 2 ^ format.fractionBits) =
      2 ^ (format.fractionBits + format.leastExponent + d) := by
  have hvalue := format.value_normal d (r := 0) (by positivity)
  rw [Nat.add_zero, Nat.add_zero] at hvalue
  push_cast at hvalue
  rw [hvalue, add_zero, ← zpow_natCast, ← zpow_add₀ two_ne_zero, ← add_assoc]

theorem value_zero : format.value 0 = 0 := by
  rw [value_of_lt _ (by positivity), Nat.cast_zero, zero_mul]

theorem value_pos_iff : 0 < format.value bits ↔ 0 < bits := by
  rw [← value_zero format, format.value_strictMono.lt_iff_lt]

theorem binade_mono : Monotone format.binade :=
  fun _ _ h => Nat.sub_le_sub_right (Nat.div_le_div_right h) 1

/-- Units of the last place only grow. -/
theorem value_add_le (bits k : ℕ) :
    format.value bits + k * 2 ^ (format.leastExponent + format.binade bits) ≤
      format.value (bits + k) := by
  induction k with
  | zero => simp
  | succ k ih =>
    have hbinade : format.binade bits ≤ format.binade (bits + k) :=
      format.binade_mono (Nat.le_add_right bits k)
    have hunit : (2 : ℚ) ^ (format.leastExponent + format.binade bits) ≤
        2 ^ (format.leastExponent + format.binade (bits + k)) :=
      zpow_le_zpow_right₀ one_le_two (by omega)
    rw [← Nat.add_assoc, value_succ]
    push_cast
    linarith

/-! ### Rounding to a format -/

variable {p q : ℚ}

/-- The exponent of the unit of the last place that a positive number is rounded in. -/
def placeOf (q : ℚ) : ℤ :=
  max (Int.log 2 q - format.fractionBits) format.leastExponent

/-- The bits of the nearest number, as if the exponents went on without end. -/
def unbounded (q : ℚ) : ℕ :=
  (format.placeOf q - format.leastExponent).toNat * 2 ^ format.fractionBits +
    (roundEven (q / 2 ^ format.placeOf q)).toNat

/-- The bits of the nearest number of the format, or those of infinity for what is too large. -/
def round (q : ℚ) : ℕ :=
  if q ≤ 0 then 0 else min format.infinity (format.unbounded q)

theorem ofQuotient_eq_round (num : ℕ) {den : ℕ} (hden : 0 < den) :
    format.ofQuotient num den = format.round (num / den) := by
  rcases Nat.eq_zero_or_pos num with rfl | hnum
  · rw [ofQuotient, if_pos rfl, round, Nat.cast_zero, zero_div, if_pos le_rfl]
  have hpos : (0 : ℚ) < num / den := by positivity
  have hscaled : 0 < den * 2 ^ (format.placeOf (num / den)).toNat := by positivity
  have hround := roundQuotient_eq (num * 2 ^ (-format.placeOf (num / den)).toNat) hscaled
  have hquotient := quotient_mul_zpow two_ne_zero (-format.placeOf (num / den)) num den
  rw [neg_neg, Nat.cast_ofNat] at hquotient
  rw [hquotient, zpow_neg, ← div_eq_mul_inv] at hround
  rw [ofQuotient, if_neg hnum.ne', round, if_neg hpos.not_ge, unbounded, ← hround, Int.toNat_natCast,
    logQuotient_eq hnum hden, placeOf]

/-- A positive number in units of its last place: at most as many as the significand has room for,
and no fewer than it must have, unless the exponent is the least one. -/
theorem placeOf_bounds (hq : 0 < q) :
    q / 2 ^ format.placeOf q < 2 ^ (format.fractionBits + 1) ∧
      (format.placeOf q = format.leastExponent ∨
        (2 : ℚ) ^ format.fractionBits ≤ q / 2 ^ format.placeOf q) := by
  have hunit : (0 : ℚ) < 2 ^ format.placeOf q := by positivity
  constructor
  · rw [div_lt_iff₀ hunit]
    calc q < 2 ^ (Int.log 2 q + 1) := Int.lt_zpow_succ_log_self one_lt_two q
      _ ≤ 2 ^ (((format.fractionBits + 1 : ℕ) : ℤ) + format.placeOf q) := by
        refine zpow_le_zpow_right₀ one_le_two ?_
        rw [placeOf]
        omega
      _ = 2 ^ (format.fractionBits + 1) * 2 ^ format.placeOf q := by
        rw [zpow_add₀ two_ne_zero, zpow_natCast]
  · rcases le_total (Int.log 2 q - format.fractionBits) format.leastExponent with hle | hge
    · exact .inl (max_eq_right hle)
    · refine .inr ?_
      have hplace : ((format.fractionBits : ℕ) : ℤ) + format.placeOf q = Int.log 2 q := by
        rw [placeOf, max_eq_left hge]
        omega
      rw [le_div_iff₀ hunit, ← zpow_natCast, ← zpow_add₀ two_ne_zero, hplace]
      exact Int.zpow_log_le_self one_lt_two hq

theorem leastExponent_le_placeOf (q : ℚ) : format.leastExponent ≤ format.placeOf q :=
  le_max_right _ _

/-- The whole units that a positive number is rounded to. -/
theorem exists_units (hq : 0 < q) :
    ∃ (d m : ℕ), format.placeOf q = format.leastExponent + d ∧
      roundEven (q / 2 ^ format.placeOf q) = m ∧ m ≤ 2 ^ (format.fractionBits + 1) ∧
      (d = 0 ∨ 2 ^ format.fractionBits ≤ m) ∧
      format.unbounded q = d * 2 ^ format.fractionBits + m := by
  have hleast := format.leastExponent_le_placeOf q
  obtain ⟨hhigh, hlow⟩ := format.placeOf_bounds hq
  have hnonneg : 0 ≤ roundEven (q / 2 ^ format.placeOf q) := roundEven_nonneg (by positivity)
  have hpow (n : ℕ) : roundEven (2 ^ n) = (2 ^ n : ℕ) := by
    exact_mod_cast roundEven_intCast (2 ^ n)
  refine ⟨_, _, (by omega : format.placeOf q =
    format.leastExponent + ((format.placeOf q - format.leastExponent).toNat : ℤ)),
    (Int.toNat_of_nonneg hnonneg).symm, ?_, ?_, rfl⟩
  · have hmono := roundEven_mono hhigh.le
    rw [hpow] at hmono
    omega
  · refine hlow.imp (fun hplace => by omega) fun hge => ?_
    have hmono := roundEven_mono hge
    rw [hpow] at hmono
    omega

theorem value_unbounded (hq : 0 < q) :
    format.value (format.unbounded q) =
      roundEven (q / 2 ^ format.placeOf q) * 2 ^ format.placeOf q := by
  obtain ⟨d, m, hplace, hunits, hm, hd, hbits⟩ := format.exists_units hq
  rw [hbits, value_add _ hm hd, hunits, hplace, Int.cast_natCast]

theorem placeOf_le_binade (hq : 0 < q) :
    format.placeOf q ≤ format.leastExponent + format.binade (format.unbounded q) := by
  obtain ⟨d, m, hplace, -, -, hd, hbits⟩ := format.exists_units hq
  have hpos : 0 < 2 ^ format.fractionBits := by positivity
  have hbinade : d ≤ format.binade (format.unbounded q) := by
    rcases hd with rfl | hm
    · exact Nat.zero_le _
    · have hle : d + 1 ≤ format.unbounded q / 2 ^ format.fractionBits := by
        rw [Nat.le_div_iff_mul_le hpos, hbits, Nat.add_mul]
        omega
      exact Nat.le_sub_one_of_lt hle
  omega

/-- A number that the format has: a whole number of units, none too small and not too many. -/
def IsExact (q : ℚ) : Prop :=
  ∃ (m : ℕ) (n : ℤ), q = m * 2 ^ n ∧ m < 2 ^ (format.fractionBits + 1) ∧ format.leastExponent ≤ n

/-- In smaller units it is a whole number too. -/
theorem div_unit_eq (m : ℕ) {place n : ℤ} (h : place ≤ n) :
    (m : ℚ) * 2 ^ n / 2 ^ place = ((m * 2 ^ (n - place).toNat : ℕ) : ℤ) := by
  have hsplit : (2 : ℚ) ^ n = 2 ^ (n - place).toNat * 2 ^ place := by
    rw [← zpow_natCast, ← zpow_add₀ two_ne_zero, Int.toNat_of_nonneg (by omega), sub_add_cancel]
  rw [hsplit, ← mul_assoc, mul_div_cancel_right₀ _ (by positivity)]
  push_cast
  rfl

variable {format}

theorem isExact_value (bits : ℕ) : format.IsExact (format.value bits) :=
  ⟨_, _, rfl, format.significand_lt bits, Int.le_add_of_nonneg_right (Int.natCast_nonneg _)⟩

theorem IsExact.value_unbounded (h : format.IsExact q) (hq : 0 < q) :
    format.value (format.unbounded q) = q := by
  obtain ⟨m, n, rfl, hm, hn⟩ := h
  have hpow : (0 : ℚ) < 2 ^ n := by positivity
  have hlt : (m : ℚ) * 2 ^ n < 2 ^ (((format.fractionBits + 1 : ℕ) : ℤ) + n) := by
    rw [zpow_add₀ two_ne_zero, zpow_natCast, mul_lt_mul_iff_left₀ hpow]
    exact_mod_cast hm
  have hlog := (Int.lt_zpow_iff_log_lt one_lt_two hq).1 hlt
  have hplace : format.placeOf (m * 2 ^ n) ≤ n := by
    rw [placeOf]
    omega
  have hwhole := div_unit_eq m hplace
  rw [BinaryFormat.value_unbounded _ hq, hwhole, roundEven_intCast, ← hwhole]
  exact div_mul_cancel₀ _ (by positivity)

variable (format)

theorem unbounded_value (hbits : 0 < bits) : format.unbounded (format.value bits) = bits := by
  exact format.value_strictMono.injective
    ((isExact_value bits).value_unbounded (format.value_pos_iff.2 hbits))

/-- Each number of the format is its own rounding, and so is infinity. -/
theorem round_value (h : bits ≤ format.infinity) : format.round (format.value bits) = bits := by
  rcases Nat.eq_zero_or_pos bits with rfl | hbits
  · rw [value_zero, round, if_pos le_rfl]
  · rw [round, if_neg (format.value_pos_iff.2 hbits).not_ge, unbounded_value _ hbits, min_eq_right h]

theorem value_round_of_isExact (h : format.IsExact q) (hq : 0 ≤ q)
    (hfinite : q < format.value format.infinity) : format.value (format.round q) = q := by
  rcases hq.eq_or_lt with rfl | hq
  · rw [round, if_pos le_rfl, value_zero]
  · have hvalue := h.value_unbounded hq
    have hlt : format.unbounded q < format.infinity := by
      rwa [← format.value_strictMono.lt_iff_lt, hvalue]
    rw [round, if_neg hq.not_ge, min_eq_right hlt.le, hvalue]

theorem unbounded_mono (hp : 0 < p) (h : p ≤ q) : format.unbounded p ≤ format.unbounded q := by
  have hq := lt_of_lt_of_le hp h
  have hlog : Int.log 2 p ≤ Int.log 2 q := Int.log_mono_right hp h
  have hplace : format.placeOf p ≤ format.placeOf q := max_le_max_right _ (by omega)
  obtain ⟨d, m, hpplace, hpunits, hm, -, hpbits⟩ := format.exists_units hp
  obtain ⟨e, n, hqplace, hqunits, -, he, hqbits⟩ := format.exists_units hq
  rw [hpbits, hqbits]
  rcases hplace.eq_or_lt with heq | hlt
  · obtain rfl : d = e := by omega
    have hunits : roundEven (p / 2 ^ format.placeOf p) ≤ roundEven (q / 2 ^ format.placeOf q) := by
      rw [heq]
      exact roundEven_mono (by gcongr)
    omega
  · -- The smaller number is rounded to the least one with the greater unit at most.
    have hstep : (d + 1) * 2 ^ format.fractionBits ≤ e * 2 ^ format.fractionBits :=
      Nat.mul_le_mul_right _ (by omega)
    rw [pow_succ] at hm
    rw [Nat.add_mul] at hstep
    omega

/-- Rounding keeps the order. -/
theorem round_mono (h : p ≤ q) : format.round p ≤ format.round q := by
  rcases le_or_gt p 0 with hp | hp
  · rw [round, if_pos hp]
    exact Nat.zero_le _
  · rw [round, if_neg hp.not_ge, round, if_neg (lt_of_lt_of_le hp h).not_ge]
    exact min_le_min_left _ (format.unbounded_mono hp h)

theorem round_le_infinity (q : ℚ) : format.round q ≤ format.infinity := by
  rw [round]
  split_ifs
  · exact Nat.zero_le _
  · exact min_le_left _ _

theorem round_of_value_infinity_le (h : format.value format.infinity ≤ q) :
    format.round q = format.infinity := by
  have hmono := format.round_mono h
  rw [format.round_value le_rfl] at hmono
  exact le_antisymm (format.round_le_infinity q) hmono

/-- What lies below half of the least positive number becomes zero. -/
theorem round_of_lt_half (h : q < 2 ^ (format.leastExponent - 1)) : format.round q = 0 := by
  rcases le_or_gt q 0 with hq | hq
  · exact if_pos hq
  have hlog := (Int.lt_zpow_iff_log_lt one_lt_two hq).1 h
  have hplace : format.placeOf q = format.leastExponent := max_eq_right (by omega)
  have hunit : (0 : ℚ) < 2 ^ format.leastExponent := by positivity
  have hhalf : q / 2 ^ format.leastExponent < 1 / 2 := by
    rw [div_lt_iff₀ hunit, one_div, mul_comm, ← zpow_sub_one₀ two_ne_zero]
    exact h
  have hnear := abs_le.1 (abs_sub_roundEven_le (q / 2 ^ format.leastExponent))
  have hlt : roundEven (q / 2 ^ format.leastExponent) < 1 := by
    exact_mod_cast (by linarith : (roundEven (q / 2 ^ format.leastExponent) : ℚ) < 1)
  have hzero : (roundEven (q / 2 ^ format.leastExponent)).toNat = 0 := by omega
  rw [round, if_neg hq.not_ge, unbounded, hplace, hzero, sub_self, Int.toNat_zero, Nat.zero_mul,
    Nat.zero_add, Nat.min_zero]

theorem abs_sub_value_unbounded_le (hq : 0 < q) :
    |q - format.value (format.unbounded q)| ≤ 2 ^ format.placeOf q / 2 := by
  have hunit : (0 : ℚ) < 2 ^ format.placeOf q := by positivity
  have hround := abs_sub_roundEven_le (q / 2 ^ format.placeOf q)
  have hscale : q - format.value (format.unbounded q) =
      (q / 2 ^ format.placeOf q - roundEven (q / 2 ^ format.placeOf q)) * 2 ^ format.placeOf q := by
    rw [value_unbounded _ hq, sub_mul, div_mul_cancel₀ _ hunit.ne']
  rw [hscale, abs_mul, abs_of_pos hunit]
  linarith [mul_le_mul_of_nonneg_right hround hunit.le]

/-- A unit is no smaller than the number in as many parts as the significand can count. -/
theorem div_le_unit (hq : 0 < q) : q / 2 ^ (format.fractionBits + 1) ≤ 2 ^ format.placeOf q := by
  rw [div_le_iff₀ (by positivity), ← div_le_iff₀' (by positivity)]
  exact (format.placeOf_bounds hq).1.le

theorem least_le_unit (q : ℚ) : (2 : ℚ) ^ format.leastExponent ≤ 2 ^ format.placeOf q :=
  zpow_le_zpow_right₀ one_le_two (format.leastExponent_le_placeOf q)

/-- But for the least one, a unit is no more than twice as large. -/
theorem unit_le (hq : 0 < q) :
    (2 : ℚ) ^ format.placeOf q ≤ q / 2 ^ format.fractionBits + 2 ^ format.leastExponent := by
  have hunit : (0 : ℚ) < 2 ^ format.placeOf q := by positivity
  rcases (format.placeOf_bounds hq).2 with hleast | hnormal
  · rw [hleast]
    exact le_add_of_nonneg_left (by positivity)
  · rw [le_div_iff₀ hunit, ← le_div_iff₀' (by positivity)] at hnormal
    exact hnormal.trans (le_add_of_nonneg_right (by positivity))

theorem unit_le_of_normal (h : (2 : ℚ) ^ format.fractionBits * 2 ^ format.leastExponent ≤ q) :
    (2 : ℚ) ^ format.placeOf q ≤ q / 2 ^ format.fractionBits := by
  have hq : 0 < q := lt_of_lt_of_le (by positivity) h
  rw [le_div_iff₀' (by positivity)]
  rcases (format.placeOf_bounds hq).2 with hleast | hnormal
  · rwa [hleast]
  · rwa [le_div_iff₀ (by positivity)] at hnormal

/-- A number in the range of the format is rounded with an error of half a unit at most. -/
theorem abs_sub_value_round_le (hq : 0 < q) (hfinite : q ≤ format.value format.infinity) :
    |q - format.value (format.round q)| ≤ 2 ^ format.placeOf q / 2 := by
  have hpos : 0 < format.infinity := format.value_pos_iff.1 (hq.trans_le hfinite)
  have hmono := format.unbounded_mono hq hfinite
  rw [unbounded_value _ hpos] at hmono
  rw [round, if_neg hq.not_ge, min_eq_right hmono]
  exact format.abs_sub_value_unbounded_le hq

/-- A number that lies half a unit below the `k`-th one above another is rounded to one of the
next `k` at most. -/
theorem round_le_round_add {k : ℕ} (hp : 0 < p)
    (h : q ≤ p + (k - 1 / 2) * 2 ^ format.placeOf p) : format.round q ≤ format.round p + k := by
  have hnear := abs_le.1 (format.abs_sub_value_unbounded_le hp)
  have hsteps := format.value_add_le (format.unbounded p) k
  have hunit : (2 : ℚ) ^ format.placeOf p ≤
      2 ^ (format.leastExponent + format.binade (format.unbounded p)) :=
    zpow_le_zpow_right₀ one_le_two (format.placeOf_le_binade hp)
  have hk := mul_le_mul_of_nonneg_left hunit (Nat.cast_nonneg (α := ℚ) k)
  have hle : q ≤ format.value (format.unbounded p + k) := by linarith
  rcases le_or_gt q 0 with hq | hq
  · rw [round, if_pos hq]
    exact Nat.zero_le _
  · have hpos : 0 < format.unbounded p + k := format.value_pos_iff.1 (lt_of_lt_of_le hq hle)
    have hmono := format.unbounded_mono hq hle
    rw [unbounded_value _ hpos] at hmono
    rw [round, if_neg hq.not_ge, round, if_neg hp.not_ge]
    omega

/-! ### Nearest numbers -/

/-- No bits denote a number that is nearer, and odd ones none that is as near. -/
def IsNearest (q : ℚ) (bits : ℕ) : Prop :=
  ∀ other, |q - format.value bits| ≤ |q - format.value other| ∧
    (|q - format.value bits| = |q - format.value other| → other = bits ∨ bits % 2 = 0)

theorem isNearest_value (bits : ℕ) : format.IsNearest (format.value bits) bits := by
  intro other
  rw [sub_self, abs_zero]
  refine ⟨abs_nonneg _, fun htie => .inl ?_⟩
  exact (format.value_strictMono.injective (sub_eq_zero.1 (abs_eq_zero.1 htie.symm))).symm

/-- What counts in smaller units lies below every number that is rounded in this unit. -/
theorem value_div_unit_lt {place : ℤ} (h : format.leastExponent + format.binade bits < place) :
    format.value bits / 2 ^ place < 2 ^ format.fractionBits := by
  have hlt : (format.significand bits : ℚ) < 2 ^ (format.fractionBits + 1) := by
    exact_mod_cast format.significand_lt bits
  have hunit : (0 : ℚ) < 2 ^ place := by positivity
  rw [div_lt_iff₀ hunit, value]
  calc (format.significand bits : ℚ) * 2 ^ (format.leastExponent + format.binade bits)
      < 2 ^ (format.fractionBits + 1) * 2 ^ (format.leastExponent + format.binade bits) := by gcongr
    _ = 2 ^ format.fractionBits * 2 ^ (format.leastExponent + format.binade bits + 1) := by
      rw [zpow_add_one₀ two_ne_zero]
      ring
    _ ≤ 2 ^ format.fractionBits * 2 ^ place := by
      gcongr
      · exact one_le_two
      · exact h

theorem isNearest_unbounded (hfraction : 0 < format.fractionBits) (hq : 0 < q) :
    format.IsNearest q (format.unbounded q) := by
  intro other
  have hunit : (0 : ℚ) < 2 ^ format.placeOf q := by positivity
  -- Everything is counted in the unit of the last place.
  have hscale (r : ℚ) : |q - r| = |q / 2 ^ format.placeOf q - r / 2 ^ format.placeOf q| *
      2 ^ format.placeOf q := by
    rw [← sub_div, abs_div, abs_of_pos hunit, div_mul_cancel₀ _ hunit.ne']
  have hvalue : format.value (format.unbounded q) / 2 ^ format.placeOf q =
      roundEven (q / 2 ^ format.placeOf q) := by
    rw [value_unbounded _ hq, mul_div_cancel_right₀ _ hunit.ne']
  rw [hscale, hscale (format.value other), mul_le_mul_iff_left₀ hunit, mul_left_inj' hunit.ne',
    hvalue]
  rcases le_or_gt (format.placeOf q) (format.leastExponent + format.binade other) with hle | hgt
  · have hwhole := div_unit_eq (format.significand other) hle
    rw [value, hwhole]
    refine (roundEven_nearest _ _).imp_right fun hnear htie => (hnear htie).imp (fun hsame => ?_) ?_
    · apply format.value_strictMono.injective
      rw [← div_left_inj' hunit.ne', hvalue, ← hsame, value, hwhole]
    · intro heven
      obtain ⟨d, m, -, hunits, -, -, hbits⟩ := format.exists_units hq
      obtain ⟨f, hf⟩ := Nat.exists_eq_add_of_lt hfraction
      rw [hbits, hf, pow_succ, ← Nat.mul_assoc]
      omega
  · obtain ⟨-, hleast | hnormal⟩ := format.placeOf_bounds hq
    · omega
    have hlt := format.value_div_unit_lt hgt
    have hpow := (roundEven_nearest (q / 2 ^ format.placeOf q) (2 ^ format.fractionBits)).1
    push_cast at hpow
    rw [abs_of_nonneg (sub_nonneg.2 hnormal)] at hpow
    have hapart : q / 2 ^ format.placeOf q - 2 ^ format.fractionBits <
        |q / 2 ^ format.placeOf q - format.value other / 2 ^ format.placeOf q| :=
      lt_of_lt_of_le (by linarith) (le_abs_self _)
    have hnear := hpow.trans_lt hapart
    exact ⟨hnear.le, fun htie => absurd htie hnear.ne⟩

/-- The rounding of a number is the nearest one, or infinity where that is out of range. -/
theorem exists_isNearest (hfraction : 0 < format.fractionBits) (hq : 0 ≤ q) :
    ∃ bits, format.IsNearest q bits ∧ format.round q = min format.infinity bits := by
  rcases hq.eq_or_lt with rfl | hq
  · have hzero := format.isNearest_value 0
    rw [value_zero] at hzero
    exact ⟨0, hzero, by rw [round, if_pos le_rfl, Nat.min_zero]⟩
  · exact ⟨_, format.isNearest_unbounded hfraction hq, if_neg hq.not_ge⟩

end BinaryFormat

end SeriesQuery
