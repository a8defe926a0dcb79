import Mathlib.Tactic.NormNum
import SeriesQuery.Proofs.Number.Integer
import SeriesQuery.Proofs.Number.Rounding

/-!
# Decimal numbers and their texts

A decimal number of any size is rounded correctly: what is cut off far from one is infinity or zero
in both formats. The texts of a floating-point number are digits with an optional point and an
optional exponent, and the names of infinity and NaN, behind an optional sign. These texts are
accepted, and no others.
-/

namespace SeriesQuery

/-! ### Rounding -/

namespace Decimal

def value (x : Decimal) : ℚ :=
  x.coefficient * 10 ^ x.exponent

theorem digitCount_bounds {n : ℕ} (h : 0 < n) :
    (10 : ℚ) ^ ((digitCount n : ℤ) - 1) ≤ n ∧ (n : ℚ) < 10 ^ (digitCount n : ℤ) := by
  have hpos : 0 < digitCount n := by
    rw [digitCount, if_neg h.ne']
    exact Nat.length_toDigits_pos
  have hcount (k : ℕ) (hk : 0 < k) : digitCount n ≤ k ↔ n < 10 ^ k := by
    rw [digitCount, if_neg h.ne', Nat.length_toDigits_le_iff (by decide) hk]
  constructor
  · have hlow : 10 ^ (digitCount n - 1) ≤ n := by
      rcases Nat.eq_zero_or_pos (digitCount n - 1) with hone | hmore
      · rw [hone]
        exact h
      · exact Nat.le_of_not_lt fun hlt => by
          have hle := (hcount _ hmore).2 hlt
          omega
    have hcast : ((digitCount n : ℤ) - 1) = ((digitCount n - 1 : ℕ) : ℤ) := by omega
    rw [hcast, zpow_natCast]
    exact_mod_cast hlow
  · rw [zpow_natCast]
    exact_mod_cast (hcount _ hpos).1 le_rfl

/-- A format that has nothing beyond four hundred decimal places either way. -/
structure IsWithin (format : BinaryFormat) : Prop where
  least : (10 : ℚ) ^ (-401 : ℤ) < 2 ^ (format.leastExponent - 1)
  greatest : format.value format.infinity ≤ 10 ^ (400 : ℤ)

/-- The powers are too large to be computed in one go. -/
theorem isWithin_of_exponents {format : BinaryFormat} {d : ℕ}
    (hleast : -1074 ≤ format.leastExponent)
    (hinfinity : format.infinity = (d + 1) * 2 ^ format.fractionBits)
    (hgreatest : format.fractionBits + format.leastExponent + d ≤ 1024) : IsWithin format where
  least := by
    have hpow : (2 : ℚ) ^ 1075 < 10 ^ 401 := by
      calc (2 : ℚ) ^ 1075 = (2 ^ 215) ^ 5 := by rw [← pow_mul]
        _ < (10 ^ 80) ^ 5 := by gcongr; norm_num
        _ = 10 ^ 400 := by rw [← pow_mul]
        _ ≤ 10 ^ 401 := pow_le_pow_right₀ (by norm_num) (by norm_num)
    calc (10 : ℚ) ^ (-401 : ℤ) = (10 ^ 401)⁻¹ := zpow_neg_coe_of_pos 10 (by norm_num)
      _ < (2 ^ 1075)⁻¹ := inv_strictAnti₀ (by positivity) hpow
      _ = 2 ^ (-1075 : ℤ) := (zpow_neg_coe_of_pos 2 (by norm_num)).symm
      _ ≤ 2 ^ (format.leastExponent - 1) := zpow_le_zpow_right₀ one_le_two (by omega)
  greatest := by
    rw [hinfinity, format.value_binade]
    calc (2 : ℚ) ^ (format.fractionBits + format.leastExponent + d) ≤ 2 ^ (1024 : ℤ) :=
          zpow_le_zpow_right₀ one_le_two hgreatest
      _ = (2 ^ 256) ^ 4 := (zpow_ofNat 2 1024).trans (pow_mul 2 256 4)
      _ ≤ (10 ^ 100) ^ 4 := by gcongr; norm_num
      _ = 10 ^ (400 : ℤ) := ((zpow_ofNat 10 400).trans (pow_mul 10 100 4)).symm

theorem isWithin_single : IsWithin .single :=
  isWithin_of_exponents (d := 254) (by decide) (by decide) (by decide)

theorem isWithin_double : IsWithin .double :=
  isWithin_of_exponents (d := 2046) (by decide) (by decide) (by decide)

theorem toBits_eq_round {format : BinaryFormat} (hwithin : IsWithin format) (x : Decimal) :
    x.toBits format = format.round x.value := by
  obtain ⟨hleast, hgreatest⟩ := hwithin
  have hscale : (0 : ℚ) < 10 ^ x.exponent := by positivity
  rw [toBits]
  split_ifs with hsmall hlarge
  · refine (format.round_of_lt_half ?_).symm
    rcases Nat.eq_zero_or_pos x.coefficient with hzero | hpos
    · rw [value, hzero, Nat.cast_zero, zero_mul]
      positivity
    · refine lt_of_lt_of_le ?_ hleast.le
      calc x.value < 10 ^ (digitCount x.coefficient : ℤ) * 10 ^ x.exponent :=
            mul_lt_mul_of_pos_right (digitCount_bounds hpos).2 hscale
        _ = 10 ^ ((digitCount x.coefficient : ℤ) + x.exponent) := (zpow_add₀ (by norm_num) _ _).symm
        _ ≤ 10 ^ (-401 : ℤ) := zpow_le_zpow_right₀ (by norm_num) (by omega)
  · have hpos : 0 < x.coefficient := by omega
    refine (format.round_of_value_infinity_le (hgreatest.trans ?_)).symm
    calc (10 : ℚ) ^ (400 : ℤ) ≤ 10 ^ ((digitCount x.coefficient : ℤ) - 1 + x.exponent) :=
          zpow_le_zpow_right₀ (by norm_num) (by omega)
      _ = 10 ^ ((digitCount x.coefficient : ℤ) - 1) * 10 ^ x.exponent := zpow_add₀ (by norm_num) _ _
      _ ≤ x.value := mul_le_mul_of_nonneg_right (digitCount_bounds hpos).1 hscale.le
  · have hquotient := quotient_mul_zpow (b := 10) (by norm_num) x.exponent x.coefficient 1
    rw [Nat.one_mul, Nat.cast_one, div_one, Nat.cast_ofNat] at hquotient
    rw [BinaryFormat.ofQuotient_eq_round _ _ (by positivity), hquotient, value]

end Decimal

/-! ### Texts -/

section Texts

variable {text : List Char} {n : ℤ} {x : Decimal}

theorem digitsValue_eq (digits : List Char) : digitsValue digits = Nat.ofDigitChars 10 digits 0 := by
  rw [Nat.ofDigitChars_eq_foldl, digitsValue]
  simp only [Nat.mul_comm]

/-- An exponent behind its mark is the text of an integer. -/
theorem exponentPart?_eq_some_iff : exponentPart? text = some n ↔ WritesInteger text n := by
  constructor
  · intro h
    unfold exponentPart? at h
    split at h
    rename_i negative digits hsplit
    simp only [Option.ite_none_right_eq_some] at h
    obtain ⟨⟨hne, hdigits⟩, hn⟩ := h
    rw [List.all_eq_true] at hdigits
    rw [digitsValue_eq, Option.some.injEq] at hn
    split at hsplit <;> obtain ⟨rfl, rfl⟩ := Prod.mk.inj hsplit <;> subst hn
    · exact .minus hne hdigits
    · exact .plus hne hdigits
    · exact .plain hne hdigits
  · intro h
    cases h with
    | @plain digits hne hdigits =>
      obtain ⟨c, rest, rfl⟩ := List.exists_cons_of_ne_nil hne
      have hc := hdigits c List.mem_cons_self
      have hminus : c ≠ '-' := isDigit_ne hc (by decide)
      have hplus : c ≠ '+' := isDigit_ne hc (by decide)
      rw [← List.all_eq_true] at hdigits
      simp [exponentPart?, hminus, hplus, hdigits, digitsValue_eq]
    | plus hne hdigits | minus hne hdigits =>
      rw [← List.all_eq_true] at hdigits
      simp [exponentPart?, hne, hdigits, digitsValue_eq]

/-- The exponent of a decimal number, with its mark. It may be missing. -/
inductive WritesScale : List Char → ℤ → Prop where
  | none : WritesScale [] 0
  | marked {mark : Char} {text : List Char} {n : ℤ} : mark = 'e' ∨ mark = 'E' →
      WritesInteger text n → WritesScale (mark :: text) n

/-- The texts of a decimal number: digits, an optional point with digits behind it, at least one
digit in all, and an optional exponent. -/
inductive WritesDecimal : List Char → Decimal → Prop where
  | whole {whole scale : List Char} {n : ℤ} : whole ≠ [] → (∀ c ∈ whole, isDigit c) →
      WritesScale scale n → WritesDecimal (whole ++ scale) ⟨Nat.ofDigitChars 10 whole 0, n⟩
  | point {whole fraction scale : List Char} {n : ℤ} : whole ++ fraction ≠ [] →
      (∀ c ∈ whole ++ fraction, isDigit c) → WritesScale scale n →
      WritesDecimal (whole ++ '.' :: (fraction ++ scale))
        ⟨Nat.ofDigitChars 10 (whole ++ fraction) 0, n - fraction.length⟩

/-- What an exponent makes of the digits in front of it. -/
def withScale? (whole fraction : List Char) : List Char → Option Decimal
  | [] => some ⟨Nat.ofDigitChars 10 (whole ++ fraction) 0, 0 - fraction.length⟩
  | mark :: rest =>
    if mark = 'e' ∨ mark = 'E' then
      (exponentPart? rest).map fun n =>
        ⟨Nat.ofDigitChars 10 (whole ++ fraction) 0, n - fraction.length⟩
    else none

theorem withScale?_eq_some_iff {whole fraction scale : List Char} :
    withScale? whole fraction scale = some x ↔ ∃ n, WritesScale scale n ∧
      (⟨Nat.ofDigitChars 10 (whole ++ fraction) 0, n - fraction.length⟩ : Decimal) = x := by
  cases scale with
  | nil =>
    rw [withScale?, Option.some.injEq]
    constructor
    · exact fun h => ⟨0, .none, h⟩
    · rintro ⟨n, ⟨⟩, h⟩
      exact h
  | cons mark rest =>
    simp only [withScale?, Option.ite_none_right_eq_some, Option.map_eq_some_iff,
      exponentPart?_eq_some_iff]
    constructor
    · rintro ⟨hmark, n, hwritten, h⟩
      exact ⟨n, .marked hmark hwritten, h⟩
    · rintro ⟨n, hscale, h⟩
      cases hscale with
      | marked hmark hwritten => exact ⟨hmark, n, hwritten, h⟩

theorem WritesScale.exists_mark {scale : List Char} (h : WritesScale scale n) (hne : scale ≠ []) :
    ∃ mark text, scale = mark :: text ∧ (mark = 'e' ∨ mark = 'E') ∧ WritesInteger text n := by
  cases h with
  | none => exact absurd rfl hne
  | marked hmark hwritten => exact ⟨_, _, rfl, hmark, hwritten⟩

theorem WritesScale.solid {scale : List Char} (h : WritesScale scale n) : Solid scale := by
  cases h with
  | none => exact solid_nil
  | marked hmark hwritten =>
    rcases hmark with rfl | rfl <;> exact solid_cons.2 ⟨rfl, hwritten.solid⟩

theorem WritesDecimal.solid (h : WritesDecimal text x) : Solid text := by
  cases h with
  | whole _ hwhole hscale => exact solid_append.2 ⟨solid_digits hwhole, hscale.solid⟩
  | point _ hdigits hscale =>
    obtain ⟨hwhole, hfraction⟩ := List.forall_mem_append.1 hdigits
    simp [solid_digits hwhole, solid_digits hfraction, hscale.solid, isBlank]

theorem WritesScale.stopsAt {scale : List Char} (h : WritesScale scale n) :
    StopsAt isDigit scale ∧ ∀ rest, scale ≠ '.' :: rest := by
  cases h with
  | none => simp [StopsAt]
  | marked hmark _ => rcases hmark with rfl | rfl <;> exact ⟨by simp [StopsAt, isDigit], by simp⟩

variable {whole fraction scale : List Char}

theorem decimalText?_whole (hwhole : ∀ c ∈ whole, isDigit c) (hstop : StopsAt isDigit scale)
    (hpoint : ∀ rest, scale ≠ '.' :: rest) :
    decimalText? (whole ++ scale) = if whole = [] then none else withScale? whole [] scale := by
  obtain ⟨htake, hdrop⟩ := span_append hwhole hstop
  simp only [decimalText?, htake, hdrop, digitsValue_eq]
  cases scale <;> simp [withScale?]

theorem decimalText?_point (hwhole : ∀ c ∈ whole, isDigit c) (hfraction : ∀ c ∈ fraction, isDigit c)
    (hstop : StopsAt isDigit scale) :
    decimalText? (whole ++ '.' :: (fraction ++ scale)) =
      if whole ++ fraction = [] then none else withScale? whole fraction scale := by
  have hpoint : StopsAt isDigit ('.' :: (fraction ++ scale)) := by simp [StopsAt, isDigit]
  obtain ⟨htake, hdrop⟩ := span_append hwhole hpoint
  obtain ⟨htakeFraction, hdropFraction⟩ := span_append hfraction hstop
  simp only [decimalText?, htake, hdrop, htakeFraction, hdropFraction, digitsValue_eq]
  cases scale <;> rfl

theorem decimalText?_eq_some_iff : decimalText? text = some x ↔ WritesDecimal text x := by
  constructor
  · intro h
    obtain ⟨whole, rest, rfl, hwhole, hrest⟩ : ∃ whole rest, text = whole ++ rest ∧
        (∀ c ∈ whole, isDigit c) ∧ StopsAt isDigit rest :=
      ⟨_, _, List.takeWhile_append_dropWhile.symm, List.all_eq_true.1 List.all_takeWhile,
        stopsAt_dropWhile _ _⟩
    by_cases hpoint : ∃ behind, rest = '.' :: behind
    · obtain ⟨behind, rfl⟩ := hpoint
      obtain ⟨fraction, scale, rfl, hfraction, hscale⟩ : ∃ fraction scale,
          behind = fraction ++ scale ∧ (∀ c ∈ fraction, isDigit c) ∧ StopsAt isDigit scale :=
        ⟨_, _, List.takeWhile_append_dropWhile.symm, List.all_eq_true.1 List.all_takeWhile,
          stopsAt_dropWhile _ _⟩
      rw [decimalText?_point hwhole hfraction hscale, Option.ite_none_left_eq_some,
        withScale?_eq_some_iff] at h
      obtain ⟨hne, n, hwritten, rfl⟩ := h
      exact .point hne (List.forall_mem_append.2 ⟨hwhole, hfraction⟩) hwritten
    · rw [decimalText?_whole hwhole hrest (not_exists.1 hpoint), Option.ite_none_left_eq_some,
        withScale?_eq_some_iff] at h
      obtain ⟨hne, n, hwritten, rfl⟩ := h
      have hdecimal := WritesDecimal.whole hne hwhole hwritten
      simpa using hdecimal
  · intro h
    cases h with
    | whole hne hwhole hscale =>
      obtain ⟨hstop, hpoint⟩ := hscale.stopsAt
      rw [decimalText?_whole hwhole hstop hpoint, if_neg hne, withScale?_eq_some_iff]
      exact ⟨_, hscale, by simp⟩
    | point hne hdigits hscale =>
      obtain ⟨hwhole, hfraction⟩ := List.forall_mem_append.1 hdigits
      rw [decimalText?_point hwhole hfraction hscale.stopsAt.1, if_neg hne, withScale?_eq_some_iff]
      exact ⟨_, hscale, rfl⟩

/-- The texts of an unsigned value. Infinity and NaN are named in letters of either case. -/
inductive WritesUnsigned (negative : Bool) : List Char → FloatLiteral → Prop where
  | finite {text : List Char} {x : Decimal} :
      WritesDecimal text x → WritesUnsigned negative text (.finite negative x)
  | infinite {text : List Char} :
      text.map Char.toLower = "inf".toList ∨ text.map Char.toLower = "infinity".toList →
      WritesUnsigned negative text (.infinite negative)
  | notANumber {text : List Char} :
      text.map Char.toLower = "nan".toList → WritesUnsigned negative text (.notANumber negative)

/-- The texts of a floating-point value: an optional sign in front of an unsigned one. -/
inductive WritesFloat : List Char → FloatLiteral → Prop where
  | plain {text : List Char} {literal : FloatLiteral} :
      WritesUnsigned false text literal → WritesFloat text literal
  | plus {text : List Char} {literal : FloatLiteral} :
      WritesUnsigned false text literal → WritesFloat ('+' :: text) literal
  | minus {text : List Char} {literal : FloatLiteral} :
      WritesUnsigned true text literal → WritesFloat ('-' :: text) literal

/-- A decimal number begins with a digit or a point, which have no other case. -/
theorem WritesDecimal.exists_cons (h : WritesDecimal text x) :
    ∃ c rest, text = c :: rest ∧ (isDigit c ∨ c = '.') := by
  cases h with
  | whole hne hwhole _ =>
    obtain ⟨c, rest, rfl⟩ := List.exists_cons_of_ne_nil hne
    exact ⟨c, _, rfl, .inl (hwhole c List.mem_cons_self)⟩
  | @point whole _ _ _ _ hdigits _ =>
    cases whole with
    | nil => exact ⟨'.', _, rfl, .inr rfl⟩
    | cons c rest => exact ⟨c, _, rfl, .inl (hdigits c List.mem_cons_self)⟩

theorem toLower_of_digit_or_point {c : Char} (h : isDigit c ∨ c = '.') : c.toLower = c := by
  have hlt : c.toNat < 65 := by
    rcases h with hc | rfl
    · have hbounds := isDigit_iff_toNat.1 hc
      omega
    · decide
  refine dif_neg ?_
  rintro ⟨hlow, -⟩
  have hge : 65 ≤ c.toNat := hlow
  omega

/-- No decimal number is the name of a value. -/
theorem WritesDecimal.map_toLower_ne {c : Char} {name : List Char} (h : WritesDecimal text x)
    (hc : ¬(isDigit c ∨ c = '.')) : text.map Char.toLower ≠ c :: name := by
  obtain ⟨first, rest, rfl, hfirst⟩ := h.exists_cons
  rw [List.map_cons, toLower_of_digit_or_point hfirst]
  intro heq
  exact hc ((List.cons.inj heq).1 ▸ hfirst)

variable {negative : Bool} {literal : FloatLiteral}

theorem decimalText?_of_name {c : Char} {name : List Char} (hc : ¬(isDigit c ∨ c = '.'))
    (h : text.map Char.toLower = c :: name) : decimalText? text = none := by
  rw [Option.eq_none_iff_forall_ne_some]
  intro x hx
  exact (decimalText?_eq_some_iff.1 hx).map_toLower_ne hc h

theorem unsignedFloat?_eq_some_iff :
    unsignedFloat? negative text = some literal ↔ WritesUnsigned negative text literal := by
  constructor
  · intro h
    rw [unsignedFloat?] at h
    split at h
    · rename_i value hvalue
      obtain rfl := Option.some.inj h
      exact .finite (decimalText?_eq_some_iff.1 hvalue)
    · simp only at h
      split at h
      · rename_i hname
        obtain rfl := Option.some.inj h
        exact .infinite hname
      split at h
      · rename_i hname
        obtain rfl := Option.some.inj h
        exact .notANumber hname
      · cases h
  · intro h
    cases h with
    | finite hdecimal => rw [unsignedFloat?, decimalText?_eq_some_iff.2 hdecimal]
    | infinite hname =>
      have hnone : decimalText? text = none :=
        hname.elim (decimalText?_of_name (by decide)) (decimalText?_of_name (by decide))
      rw [unsignedFloat?, hnone]
      exact if_pos hname
    | notANumber hname =>
      have hnone : decimalText? text = none := decimalText?_of_name (by decide) hname
      rw [unsignedFloat?, hnone]
      simp only [hname]
      rfl

/-- No unsigned text begins with a sign. -/
theorem WritesUnsigned.exists_cons (h : WritesUnsigned negative text literal) :
    ∃ c rest, text = c :: rest ∧ c ≠ '+' ∧ c ≠ '-' := by
  have hnamed {d : Char} {name : List Char} (hname : text.map Char.toLower = d :: name)
      (hplus : '+'.toLower ≠ d) (hminus : '-'.toLower ≠ d) :
      ∃ c rest, text = c :: rest ∧ c ≠ '+' ∧ c ≠ '-' := by
    obtain ⟨c, rest, rfl, hc, -⟩ := List.map_eq_cons_iff.1 hname
    refine ⟨c, rest, rfl, ?_, ?_⟩ <;> rintro rfl <;> contradiction
  cases h with
  | finite hdecimal =>
    obtain ⟨c, rest, rfl, hc⟩ := hdecimal.exists_cons
    refine ⟨c, rest, rfl, ?_, ?_⟩ <;> rintro rfl <;> revert hc <;> decide
  | infinite hname =>
    exact hname.elim (hnamed · (by decide) (by decide)) (hnamed · (by decide) (by decide))
  | notANumber hname => exact hnamed hname (by decide) (by decide)

/-- A text is read as the value whose text it is. -/
theorem FloatLiteral.parse_eq_ok_iff :
    FloatLiteral.parse text = .ok literal ↔ WritesFloat text literal := by
  constructor
  · intro h
    unfold FloatLiteral.parse at h
    simp only at h
    split at h
    · cases h
    · rename_i found _ hfound
      obtain rfl := Except.ok.inj h
      split at hfound
      · exact .minus (unsignedFloat?_eq_some_iff.1 hfound)
      · exact .plus (unsignedFloat?_eq_some_iff.1 hfound)
      · exact .plain (unsignedFloat?_eq_some_iff.1 hfound)
    · cases h
  · intro h
    cases h with
    | plain hunsigned =>
      have hread := unsignedFloat?_eq_some_iff.2 hunsigned
      obtain ⟨c, rest, rfl, hplus, hminus⟩ := hunsigned.exists_cons
      simp [FloatLiteral.parse, hplus, hminus, hread]
    | plus hunsigned | minus hunsigned =>
      simp [FloatLiteral.parse, unsignedFloat?_eq_some_iff.2 hunsigned]

end Texts

/-! ### Bits -/

/-- The bits of a value and its sign. -/
def BinaryFormat.signed (format : BinaryFormat) (negative : Bool) (bits : ℕ) : ℕ :=
  if negative then format.signBit + bits else bits

namespace FloatLiteral

theorem toDouble_finite (negative : Bool) (x : Decimal) :
    (FloatLiteral.finite negative x).toDouble =
      Double.ofMagnitude negative (BinaryFormat.double.round x.value) := by
  rw [toDouble, bits, magnitude, Decimal.toBits_eq_round Decimal.isWithin_double]
  rfl

/-- The bits that a literal stands for in a format. The number is the nearest one of the format, or
infinity where that is out of range. -/
inductive HasBits (format : BinaryFormat) : FloatLiteral → ℕ → Prop where
  | finite {negative : Bool} {x : Decimal} {near : ℕ} : format.IsNearest x.value near →
      HasBits format (.finite negative x) (format.signed negative (min format.infinity near))
  | infinite (negative : Bool) :
      HasBits format (.infinite negative) (format.signed negative format.infinity)
  | notANumber (negative : Bool) :
      HasBits format (.notANumber negative) (format.signed negative format.quietNaN)

section Formats

variable {format : BinaryFormat}

theorem hasBits_bits (hwithin : Decimal.IsWithin format) (hfraction : 0 < format.fractionBits)
    (literal : FloatLiteral) : HasBits format literal (literal.bits format) := by
  cases literal with
  | finite negative x =>
    have hnonneg : 0 ≤ x.value := by
      rw [Decimal.value]
      positivity
    obtain ⟨near, hnear, hround⟩ := format.exists_isNearest hfraction hnonneg
    have hbits : (finite negative x).bits format =
        format.signed negative (min format.infinity near) := by
      rw [← hround, ← Decimal.toBits_eq_round hwithin]
      rfl
    rw [hbits]
    exact .finite hnear
  | infinite negative => exact .infinite negative
  | notANumber negative => exact .notANumber negative

/-- The sign is free in the bits of a value. -/
theorem bits_lt (hwithin : Decimal.IsWithin format) (hsign : format.quietNaN < format.signBit)
    (literal : FloatLiteral) : literal.bits format < 2 * format.signBit := by
  have hinfinity : format.infinity ≤ format.quietNaN := Nat.le_add_right _ _
  have hmagnitude : literal.magnitude format < format.signBit := by
    cases literal with
    | finite negative x =>
      rw [magnitude, Decimal.toBits_eq_round hwithin]
      exact ((format.round_le_infinity _).trans hinfinity).trans_lt hsign
    | infinite negative => exact hinfinity.trans_lt hsign
    | notANumber negative => exact hsign
  rw [bits]
  split <;> omega

end Formats

theorem hasBits_toSingle (literal : FloatLiteral) :
    HasBits .single literal literal.toSingle.bits.toNat := by
  have hlt : literal.bits .single < 2 ^ 32 := literal.bits_lt Decimal.isWithin_single (by decide)
  rw [toSingle, UInt32.toNat_ofNat', Nat.mod_eq_of_lt hlt]
  exact literal.hasBits_bits Decimal.isWithin_single (by decide)

theorem hasBits_toDouble (literal : FloatLiteral) :
    HasBits .double literal literal.toDouble.bits.toNat := by
  have hlt : literal.bits .double < 2 ^ 64 := literal.bits_lt Decimal.isWithin_double (by decide)
  rw [toDouble, UInt64.toNat_ofNat', Nat.mod_eq_of_lt hlt]
  exact literal.hasBits_bits Decimal.isWithin_double (by decide)

end FloatLiteral

end SeriesQuery
