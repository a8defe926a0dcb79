import SeriesQuery.Proofs.BindSpec.Value
import SeriesQuery.Proofs.Json.Fraction
import SeriesQuery.Proofs.Json.Scaling
import SeriesQuery.Proofs.Params.Entry

/-!
# Decimals of params files and of bind specs

A bind spec takes a decimal number for the nearest double. In a params file the same text passes
through a significand of 64 bits and a power of ten that is rounded on its own, so the last bits can
differ. They never differ where significand and power are numbers that a double has, and otherwise the
doubles are a few units of the last place apart at most.
-/

namespace SeriesQuery.Params

/-- A number with a fraction or an exponent, as it is written. -/
structure DecimalLiteral where
  negative : Bool
  whole : List Char
  fraction : List Char
  scale : List Char
  places : Int
  numeral : Json.IsNumeral whole
  digit : ∀ c ∈ fraction, isDigit c
  scaled : WritesScale scale places
  parts : fraction ≠ [] ∨ scale ≠ []

namespace DecimalLiteral

variable (l : DecimalLiteral)

/-- The text behind the sign. -/
def unsigned : List Char :=
  if l.fraction = [] then l.whole ++ l.scale else l.whole ++ '.' :: (l.fraction ++ l.scale)

def text : List Char :=
  if l.negative then '-' :: l.unsigned else l.unsigned

/-- The number without its sign. -/
def magnitude : Decimal :=
  ⟨Nat.ofDigitChars 10 (l.whole ++ l.fraction) 0, l.places - l.fraction.length⟩

/-- The bits of the nearest double, without the sign. -/
def nearestBits : Nat :=
  BinaryFormat.double.round l.magnitude.value

theorem nearestBits_le_infinity : l.nearestBits ≤ BinaryFormat.double.infinity :=
  BinaryFormat.double.round_le_infinity _

/-! ### In a bind spec -/

theorem writesDecimal_unsigned : WritesDecimal l.unsigned l.magnitude := by
  rw [unsigned, magnitude]
  split_ifs with hfraction
  · have hdecimal := WritesDecimal.whole l.numeral.nonempty l.numeral.digit l.scaled
    simpa [hfraction] using hdecimal
  · exact .point (by simp [hfraction]) (List.forall_mem_append.2 ⟨l.numeral.digit, l.digit⟩) l.scaled

theorem writesFloat_text : WritesFloat l.text (.finite l.negative l.magnitude) := by
  rw [text]
  cases l.negative with
  | true => exact .minus (.finite l.writesDecimal_unsigned)
  | false => exact .plain (.finite l.writesDecimal_unsigned)

theorem solid_text : Solid l.text := by
  have hunsigned := l.writesDecimal_unsigned.solid
  rw [text]
  split
  · exact solid_cons.2 ⟨rfl, hunsigned⟩
  · exact hunsigned

/-- A bind spec has the correct rounding of each literal. -/
theorem parse_text {name : String} (hne : name ≠ "") (hname : '=' ∉ name.toList) :
    BindSpec.parse (name ++ "=double:" ++ String.ofList l.text) =
      .ok (name, .ofDouble (.ofMagnitude l.negative l.nearestBits)) := by
  have hparse : FloatLiteral.parse (trim l.text) = .ok (.finite l.negative l.magnitude) := by
    rw [l.solid_text.trim_self]
    exact FloatLiteral.parse_eq_ok_iff.2 l.writesFloat_text
  have hcell := BindType.cell_of_denotes (.double hparse)
  have hspec : name ++ "=double:" = name ++ "=" ++ BindType.double.name ++ ":" :=
    String.toList_injective (by simp [BindType.name])
  rw [FloatLiteral.toDouble_finite] at hcell
  rw [hspec, BindSpec.parse_typed hne hname, hcell, nearestBits]

/-! ### In a params file -/

/-- What the reader holds at the end of the digits. -/
def held : Decimal :=
  Json.held l.whole l.fraction

/-- The value that the reader of the file has for the literal, without its sign. -/
def read? : Option Double :=
  Json.scaledBy? l.held l.places

theorem readTree_text (allowed : Nat) (rest : List Char) :
    Json.readTree allowed (l.text ++ rest) =
      Json.mapValue Json.number (Json.readNumber l.negative (l.unsigned ++ rest)) := by
  rw [text]
  cases l.negative with
  | true => exact Json.readTree_minus allowed (l.unsigned ++ rest)
  | false =>
    obtain ⟨c, more, hwhole⟩ := List.exists_cons_of_ne_nil l.numeral.nonempty
    have hc : isDigit c := l.numeral.digit c (hwhole ▸ List.mem_cons_self)
    obtain ⟨behind, hunsigned⟩ : ∃ behind, l.unsigned = c :: behind := by
      rw [unsigned, hwhole]
      split_ifs <;> exact ⟨_, rfl⟩
    rw [hunsigned]
    exact Json.readTree_digit hc allowed (behind ++ rest)

theorem yields_readNumber {rest : List Char} (hrest : Json.EndsNumber rest) :
    Json.Yields l.negative rest (Json.readNumber l.negative (l.unsigned ++ rest)) l.read? := by
  rw [unsigned, read?, held]
  split_ifs with hfraction
  · have hne : l.scale ≠ [] := l.parts.resolve_left (· hfraction)
    obtain ⟨mark, text, hscale, hmark, hwritten⟩ := l.scaled.exists_mark hne
    rw [hscale, hfraction, List.append_assoc, List.cons_append]
    exact Json.yields_readNumber_marked l.numeral hmark hwritten hrest
  · rw [List.append_assoc, List.cons_append, List.append_assoc]
    exact Json.yields_readNumber_point l.numeral hfraction l.digit l.scaled hrest

theorem magnitude_value :
    l.magnitude.value = (Nat.ofDigitChars 10 (l.whole ++ l.fraction) 0 : ℚ) /
      10 ^ l.fraction.length * 10 ^ l.places := by
  rw [Decimal.value, magnitude, zpow_sub₀ (by norm_num), zpow_natCast]
  ring

theorem held_scaled :
    (l.held.coefficient : ℚ) * 10 ^ (l.held.exponent + l.places) = l.held.value * 10 ^ l.places := by
  rw [Decimal.value, zpow_add₀ (by norm_num), mul_assoc]

/-- The outcome of the reader is the only rounding: the reader holds the number itself, and the
significand and the power of ten are numbers that a double has. Zero has no power. -/
structure IsExact : Prop where
  complete : l.held.value = (Nat.ofDigitChars 10 (l.whole ++ l.fraction) 0 : ℚ) / 10 ^ l.fraction.length
  significand : BinaryFormat.double.IsExact l.held.coefficient
  power : l.held.coefficient = 0 ∨
    l.places.natAbs ≤ Json.exponentLimit ∧ (l.held.exponent + l.places).natAbs ≤ 22

theorem coefficient_held_le : l.held.coefficient ≤ Json.significandLimit :=
  Json.coefficient_held_le l.numeral.digit l.digit

variable {l}

theorem read?_of_isExact (h : l.IsExact) :
    l.read? = some (.ofMagnitude false l.nearestBits) := by
  have hvalue : (l.held.coefficient : ℚ) * 10 ^ (l.held.exponent + l.places) = l.magnitude.value := by
    rw [held_scaled, magnitude_value, h.complete]
  rw [nearestBits, ← hvalue, ← Double.nearest, read?, Json.scaledBy?]
  rcases h.power with hzero | ⟨hplaces, hpower⟩
  · rw [hzero, Json.scaled?_zero, Nat.cast_zero, zero_mul, Double.ofNat_eq_nearest, Nat.cast_zero]
    simp
  · refine (if_pos hplaces).trans ?_
    exact Json.scaled?_of_isExact h.significand l.coefficient_held_le hpower

/-- Digits of at most 53 bits are held as they are. -/
theorem isExact_of_lt (h : l.magnitude.coefficient < 2 ^ 53) (hplaces : l.places.natAbs ≤ Json.exponentLimit)
    (hpower : l.magnitude.exponent.natAbs ≤ 22) : l.IsExact := by
  have hlimit : l.magnitude.coefficient ≤ Json.significandLimit := h.le.trans (by decide)
  have hheld : l.held = ⟨l.magnitude.coefficient, -(l.fraction.length : ℤ)⟩ :=
    Json.held_of_le hlimit
  have hexponent : -(l.fraction.length : ℤ) + l.places = l.magnitude.exponent :=
    neg_add_eq_sub _ _
  refine ⟨?_, ?_, .inr ⟨hplaces, ?_⟩⟩
  · rw [hheld, Decimal.value, zpow_neg, zpow_natCast, ← div_eq_mul_inv, magnitude]
  · rw [hheld]
    simpa using Json.isExact_natCast (k := 0) h
  · rwa [hheld, hexponent]

/-- What is held is near the number itself. -/
theorem abs_magnitude_sub_le :
    |l.magnitude.value - l.held.coefficient * 10 ^ (l.held.exponent + l.places)| ≤
      l.held.coefficient * 10 ^ (l.held.exponent + l.places) / 2 ^ 60 := by
  have hheld := Json.abs_written_sub_held_le l.numeral.digit l.digit
  have hpower : (0 : ℚ) < 10 ^ l.places := by positivity
  rw [held_scaled, magnitude_value, ← sub_mul, abs_mul, abs_of_pos hpower, mul_div_right_comm]
  exact mul_le_mul_of_nonneg_right hheld hpower.le

variable (l)

/-- Fewer than two thousand million digits in front of the point or the exponent. -/
def IsShort : Prop :=
  l.whole.length < 2 * 10 ^ 9

variable {l}

/-- A short number with a negative exponent of more than 31 bits is as good as zero. -/
theorem magnitude_lt_of_places (hshort : l.IsShort) (hplaces : l.places < -Json.exponentLimit) :
    l.magnitude.value < 2 ^ (BinaryFormat.double.leastExponent - 1) := by
  have hbounds := (ofDigitChars_bounds 0 (List.forall_mem_append.2 ⟨l.numeral.digit, l.digit⟩)).2
  rw [Nat.zero_add, Nat.one_mul, List.length_append, pow_add] at hbounds
  have hdigits : (Nat.ofDigitChars 10 (l.whole ++ l.fraction) 0 : ℚ) / 10 ^ l.fraction.length ≤
      10 ^ l.whole.length := by
    rw [div_le_iff₀ (by positivity)]
    exact_mod_cast hbounds.le
  have hexponent : (l.whole.length : ℤ) + l.places ≤ -401 := by
    rw [IsShort] at hshort
    rw [Json.exponentLimit] at hplaces
    omega
  calc l.magnitude.value ≤ 10 ^ l.whole.length * 10 ^ l.places := by
        rw [magnitude_value]
        gcongr
    _ = 10 ^ ((l.whole.length : ℤ) + l.places) := by rw [zpow_add₀ (by norm_num), zpow_natCast]
    _ ≤ 10 ^ (-401 : ℤ) := zpow_le_zpow_right₀ (by norm_num) hexponent
    _ < 2 ^ (BinaryFormat.double.leastExponent - 1) := Decimal.isWithin_double.least

/-- Digits of which nothing is held are zeros. -/
theorem magnitude_of_held_eq_zero (h : l.held.coefficient = 0) : l.magnitude.value = 0 := by
  have hnear := l.abs_magnitude_sub_le
  rwa [h, Nat.cast_zero, zero_mul, sub_zero, zero_div, abs_nonpos_iff] at hnear

/-- The reader gives a double without a sign, and if the number is short then its bits are nearly those
of the correct rounding. -/
theorem bits_of_read? {x : Double} (h : l.read? = some x) :
    ∃ bits, x = .ofMagnitude false bits ∧ bits ≤ BinaryFormat.double.infinity ∧
      (l.IsShort → bits ≤ l.nearestBits + 5 ∧ l.nearestBits ≤ bits + 5) := by
  rw [read?, Json.scaledBy?] at h
  split_ifs at h with hplaces hlarge
  · obtain ⟨bits, hx, hinfinity, hbits⟩ :=
      Json.nearlyRounds_of_scaled? l.coefficient_held_le h l.abs_magnitude_sub_le
    exact ⟨bits, hx, hinfinity, fun _ => hbits⟩
  · obtain rfl := Option.some.inj h
    rw [Double.ofNat_eq_nearest]
    have hzero : BinaryFormat.double.round 0 = 0 := if_pos le_rfl
    refine ⟨_, rfl, BinaryFormat.double.round_le_infinity _, fun hshort => ?_⟩
    have htiny : l.magnitude.value < 2 ^ (BinaryFormat.double.leastExponent - 1) := by
      rcases Nat.eq_zero_or_pos l.held.coefficient with hnothing | hpos
      · rw [magnitude_of_held_eq_zero hnothing]
        positivity
      · exact magnitude_lt_of_places hshort (by omega)
    rw [Nat.cast_zero, hzero, nearestBits, BinaryFormat.double.round_of_lt_half htiny]
    decide

end DecimalLiteral

section Files

variable (path : String) {name : String} (frame : Frame name) {l : DecimalLiteral}

theorem ofFile_of_read? {x : Double} (h : l.read? = some x) :
    ofFile path (.ok (frame.file l.text)) =
      .ok [(name, .ofDouble (Json.signed l.negative x))] := by
  have hread := l.readTree_text Json.memberDepth frame.behind
  have hnumber := l.yields_readNumber frame.endsNumber_behind
  rw [h] at hnumber
  rw [hnumber] at hread
  exact frame.ofFile_of_ok path hread

theorem ofFile_of_read?_eq_none (h : l.read? = none) :
    ∃ e, ofFile path (.ok (frame.file l.text)) = .error e ∧ e.kind = .usage := by
  have hread := l.readTree_text Json.memberDepth frame.behind
  have hnumber := l.yields_readNumber frame.endsNumber_behind
  rw [h] at hnumber
  obtain ⟨fault, hfault⟩ := hnumber
  rw [hfault] at hread
  exact frame.ofFile_of_error path hread

end Files

/-- A bind spec gives every decimal its correct rounding. A params file gives it the same sign, and bits
that are a few units of the last place apart at most, or refuses it. It gives the same double where
the reader rounds nothing on the way. -/
theorem decimals_nearly_agree_with_bind (path : String) {name : String} (frame : Frame name)
    (l : DecimalLiteral) (hne : name ≠ "") (hname : '=' ∉ name.toList) :
    BindSpec.parse (name ++ "=double:" ++ String.ofList l.text) =
        .ok (name, .ofDouble (.ofMagnitude l.negative l.nearestBits)) ∧
      ((∃ e, ofFile path (.ok (frame.file l.text)) = .error e ∧ e.kind = .usage) ∨
        ∃ bits, ofFile path (.ok (frame.file l.text)) =
            .ok [(name, .ofDouble (.ofMagnitude l.negative bits))] ∧
          (l.IsShort → bits ≤ l.nearestBits + 5 ∧ l.nearestBits ≤ bits + 5)) ∧
      (l.IsExact → ofFile path (.ok (frame.file l.text)) =
        .ok [(name, .ofDouble (.ofMagnitude l.negative l.nearestBits))]) := by
  refine ⟨l.parse_text hne hname, ?_, fun hexact => ?_⟩
  · cases hread : l.read? with
    | none => exact .inl (ofFile_of_read?_eq_none path frame hread)
    | some x =>
      obtain ⟨bits, rfl, hinfinity, hnear⟩ := DecimalLiteral.bits_of_read? hread
      refine .inr ⟨bits, ?_, hnear⟩
      rw [ofFile_of_read? path frame hread, Json.signed_ofMagnitude _ hinfinity]
  · rw [ofFile_of_read? path frame (DecimalLiteral.read?_of_isExact hexact),
      Json.signed_ofMagnitude _ l.nearestBits_le_infinity]

/-- A negative number with a fraction and an exponent, in a file with white space. -/
theorem decimals_nearly_agree_with_bind_of_fraction :
    ∃ (frame : Frame ":n") (l : DecimalLiteral), l.text = "-12.50E+1".toList ∧
      frame.text l.text = " \x7b \":n\" : -12.50E+1 \x7d ".toList ∧
      BindSpec.parse (":n" ++ "=double:" ++ String.ofList l.text) =
        .ok (":n", .ofDouble ⟨0xC05F400000000000⟩) ∧
      ofFile "p" (.ok (frame.file l.text)) = .ok [(":n", .ofDouble ⟨0xC05F400000000000⟩)] := by
  let frame : Frame ":n" :=
    { key := [':', 'n']
      spells := .plain (by decide) (by decide) (by decide)
        (.plain (by decide) (by decide) (by decide) .nil)
      gap := fun _ => [' ']
      blank := fun _ _ hc => List.mem_singleton.1 hc ▸ rfl }
  let l : DecimalLiteral :=
    { negative := true, whole := ['1', '2'], fraction := ['5', '0'], scale := ['E', '+', '1'], places := 1
      numeral := Json.isNumeral_toDigits 12
      digit := by simp [isDigit]
      scaled := .marked (.inr rfl) (.plus (by decide) (by simp [isDigit]))
      parts := .inl (by decide) }
  have hexact : l.IsExact :=
    DecimalLiteral.isExact_of_lt (by decide) (by decide) (by decide)
  obtain ⟨hbind, -, hsame⟩ := decimals_nearly_agree_with_bind "p" frame l (by decide) (by decide)
  have hbits : BindSpec.parse (":n" ++ "=double:" ++ String.ofList l.text) =
      .ok (":n", .ofDouble ⟨0xC05F400000000000⟩) := by decide +kernel
  have hcell := (Prod.mk.inj (Except.ok.inj (hbind.symm.trans hbits))).2
  exact ⟨frame, l, by decide +kernel, by decide +kernel, hbits, hcell ▸ hsame hexact⟩

/-- The thirtieth negative power of ten: its double in a file lies one unit below the nearest one. -/
theorem negative_power_of_ten_differs :
    ∃ content, content = Utf8.ofString "\x7b\":n\":1e-30\x7d" ∧
      ofFile "p" (.ok content) = .ok [(":n", .ofDouble ⟨0x39B4484BFEEBC29F⟩)] ∧
      BindSpec.parse ":n=double:1e-30" = .ok (":n", .ofDouble ⟨0x39B4484BFEEBC2A0⟩) :=
  ⟨_, rfl, by decide +kernel, by decide +kernel⟩

end SeriesQuery.Params
