import SeriesQuery.Proofs.Json.Numeral
import SeriesQuery.Proofs.Number.Decimal

/-!
# Numbers with a fraction or an exponent

Such a number is read as a double with its sign, or it is out of range. What decides is the decimal
number that the reader holds when it has come to the end of the digits: the digits for which there is
room, and the power of ten that they count. The exponent is added to this power.
-/

namespace SeriesQuery.Json

/-- The reader finds a double and gives it the sign, or it has no double for the number. -/
def Yields (negative : Bool) (rest : List Char) (outcome : Read (Number × List Char)) :
    Option Double → Prop
  | some x => outcome = .ok (.double (signed negative x), rest)
  | none => ∃ fault, outcome = .error fault

/-- What an exponent makes of the number in front of it. An exponent of more than 31 bits leads out of
range if it is positive, and otherwise to zero. -/
def scaledBy? (held : Decimal) (n : ℤ) : Option Double :=
  if n.natAbs ≤ exponentLimit then scaled? held.coefficient (held.exponent + n)
  else if held.coefficient ≠ 0 ∧ 0 < n then none
  else some (Double.ofNat 0)

variable {negative : Bool} {significand : ℕ} {exponent n : ℤ} {text rest : List Char}

theorem yields_scaledNumber (negative : Bool) (significand : ℕ) (exponent : ℤ) (rest : List Char) :
    Yields negative rest (scaledNumber negative significand exponent rest)
      (scaled? significand exponent) := by
  rw [scaledNumber]
  cases scaled? significand exponent with
  | none => exact ⟨_, rfl⟩
  | some x => rfl

/-- The texts of a sign that may be missing, and whether it is that of a negative number. -/
inductive WritesSign : List Char → Bool → Prop where
  | none : WritesSign [] false
  | plus : WritesSign ['+'] false
  | minus : WritesSign ['-'] true

theorem readExponent_digits {sign digits : List Char} {down : Bool} (hsign : WritesSign sign down)
    (hne : digits ≠ []) (hdigits : ∀ c ∈ digits, isDigit c) (hrest : EndsNumber rest) :
    readExponent negative significand exponent (sign ++ (digits ++ rest)) =
      let (value, count) := gather exponentLimit 0 digits
      if count < digits.length then
        if significand ≠ 0 ∧ !down then
          .error (.here .numberOutOfRange ((digits ++ rest).drop (count + 1)))
        else .ok (.double (signed negative (Double.ofNat 0)), rest)
      else scaledNumber negative significand (if down then exponent - value else exponent + value)
        rest := by
  obtain ⟨htake, hdrop⟩ := span_digits hdigits hrest
  obtain ⟨c, more, rfl⟩ := List.exists_cons_of_ne_nil hne
  have hc : isDigit c := hdigits c List.mem_cons_self
  have hminus : c ≠ '-' := isDigit_ne hc (by decide)
  have hplus : c ≠ '+' := isDigit_ne hc (by decide)
  rw [List.cons_append] at htake hdrop
  cases hsign <;> simp [readExponent, hc, hminus, hplus, htake, hdrop]

theorem yields_readExponent_digits {sign digits : List Char} {down : Bool}
    (hsign : WritesSign sign down) (hne : digits ≠ []) (hdigits : ∀ c ∈ digits, isDigit c)
    (hrest : EndsNumber rest)
    (hn : n = if down then -(Nat.ofDigitChars 10 digits 0 : ℤ) else Nat.ofDigitChars 10 digits 0) :
    Yields negative rest (readExponent negative significand exponent (sign ++ (digits ++ rest)))
      (scaledBy? ⟨significand, exponent⟩ n) := by
  rw [readExponent_digits hsign hne hdigits hrest, scaledBy?]
  have habs : n.natAbs = Nat.ofDigitChars 10 digits 0 := by
    rw [hn]
    split <;> simp
  rw [habs]
  rcases Nat.lt_or_ge exponentLimit (Nat.ofDigitChars 10 digits 0) with hlarge | hsmall
  · have hcount := gather_count_lt (Nat.zero_le _) hlarge
    have hup : (!down) = true ↔ 0 < n := by
      rw [hn]
      cases down with
      | true => simp
      | false => simpa using Nat.zero_lt_of_lt hlarge
    simp only [if_pos hcount, if_neg (Nat.not_le.2 hlarge), hup]
    split
    · exact ⟨_, rfl⟩
    · rfl
  · simp only [gather_of_le hsmall, Nat.lt_irrefl, if_false, if_pos hsmall]
    have hsum : (if down then exponent - (Nat.ofDigitChars 10 digits 0 : ℤ)
        else exponent + Nat.ofDigitChars 10 digits 0) = exponent + n := by
      rw [hn]
      cases down with
      | true => exact sub_eq_add_neg _ _
      | false => rfl
    rw [hsum]
    exact yields_scaledNumber negative significand _ rest

theorem yields_readExponent (h : WritesInteger text n) (hrest : EndsNumber rest) :
    Yields negative rest (readExponent negative significand exponent (text ++ rest))
      (scaledBy? ⟨significand, exponent⟩ n) := by
  cases h with
  | plain hne hdigits => exact yields_readExponent_digits .none hne hdigits hrest rfl
  | plus hne hdigits => exact yields_readExponent_digits .plus hne hdigits hrest rfl
  | minus hne hdigits => exact yields_readExponent_digits .minus hne hdigits hrest rfl

/-- The decimal number that the reader holds at the end of the digits: those behind the point are
gathered on, and each digit without room in front of it is a power of ten. -/
def held (whole fraction : List Char) : Decimal :=
  let front := gather significandLimit 0 whole
  let behind := gather significandLimit front.1 fraction
  ⟨behind.1, (whole.length - front.2 : ℕ) - behind.2⟩

variable {whole fraction scale : List Char}

theorem stopsAt_scale (h : WritesScale scale n) (hrest : EndsNumber rest) :
    StopsAt isDigit (scale ++ rest) := by
  cases h with
  | none => exact hrest.stopsAt
  | marked hmark _ => rcases hmark with rfl | rfl <;> simp [StopsAt, isDigit]

theorem scaledBy?_zero (held : Decimal) :
    scaledBy? held 0 = scaled? held.coefficient held.exponent := by
  rw [scaledBy?, if_pos (by decide), add_zero]

theorem yields_readFraction (hne : fraction ≠ []) (hfraction : ∀ c ∈ fraction, isDigit c)
    (hscale : WritesScale scale n) (hrest : EndsNumber rest) :
    Yields negative rest (readFraction negative significand exponent (fraction ++ (scale ++ rest)))
      (scaledBy? ⟨(gather significandLimit significand fraction).1,
        exponent - (gather significandLimit significand fraction).2⟩ n) := by
  obtain ⟨htake, hdrop⟩ := span_append hfraction (stopsAt_scale hscale hrest)
  rw [readFraction]
  simp only [htake, hdrop, List.isEmpty_iff, if_neg hne]
  cases hscale with
  | none =>
    rw [scaledBy?_zero]
    split
    · exact absurd rfl (hrest 'e' (congrArg List.head? ‹_›)).2.2.1
    · exact absurd rfl (hrest 'E' (congrArg List.head? ‹_›)).2.2.2
    · exact yields_scaledNumber negative _ _ rest
  | marked hmark hwritten =>
    rcases hmark with rfl | rfl <;> exact yields_readExponent hwritten hrest

/-- A numeral with digits behind a point. -/
theorem yields_readNumber_point (hwhole : IsNumeral whole) (hne : fraction ≠ [])
    (hfraction : ∀ c ∈ fraction, isDigit c) (hscale : WritesScale scale n)
    (hrest : EndsNumber rest) :
    Yields negative rest (readNumber negative (whole ++ '.' :: (fraction ++ (scale ++ rest))))
      (scaledBy? (held whole fraction) n) := by
  have hstop : StopsAt isDigit ('.' :: (fraction ++ (scale ++ rest))) := by simp [StopsAt, isDigit]
  rw [readNumber_append hwhole hstop]
  exact yields_readFraction hne hfraction hscale hrest

/-- A numeral with an exponent right behind it. -/
theorem yields_readNumber_marked {mark : Char} (hwhole : IsNumeral whole)
    (hmark : mark = 'e' ∨ mark = 'E') (hwritten : WritesInteger text n) (hrest : EndsNumber rest) :
    Yields negative rest (readNumber negative (whole ++ mark :: (text ++ rest)))
      (scaledBy? (held whole []) n) := by
  have hstop : StopsAt isDigit (mark :: (text ++ rest)) := by
    rcases hmark with rfl | rfl <;> simp [StopsAt, isDigit]
  have hheld : held whole [] = ⟨(gather significandLimit 0 whole).1,
      (whole.length - (gather significandLimit 0 whole).2 : ℕ)⟩ := by
    simp [held, gather]
  rw [readNumber_append hwhole hstop, hheld]
  rcases hmark with rfl | rfl <;> exact yields_readExponent hwritten hrest

/-! ### What is lost -/

/-- How far the digits have been gathered: what the significand holds begins the number that they
denote, and digits are left only when it is full. -/
structure Gathers (value : ℕ) (digits : List Char) (total count : ℕ) : Prop where
  total_le : total ≤ significandLimit
  count_le : count ≤ digits.length
  low : total * 10 ^ (digits.length - count) ≤ Nat.ofDigitChars 10 digits value
  high : Nat.ofDigitChars 10 digits value < (total + 1) * 10 ^ (digits.length - count)
  full : count = digits.length ∨ 2 ^ 60 ≤ total
  extends_value : value * 10 ^ count ≤ total

theorem gathers_gather {digits : List Char} {value : ℕ} (hvalue : value ≤ significandLimit)
    (hdigits : ∀ c ∈ digits, isDigit c) :
    Gathers value digits (gather significandLimit value digits).1
      (gather significandLimit value digits).2 := by
  induction digits generalizing value with
  | nil => exact ⟨hvalue, le_rfl, by simp [gather], by simp [gather], .inl rfl, by simp [gather]⟩
  | cons c rest ih =>
    obtain ⟨hc, hrest⟩ := List.forall_mem_cons.1 hdigits
    rw [gather]
    by_cases hgrown : value * 10 + (c.toNat - '0'.toNat) ≤ significandLimit
    · have hnext := ih hgrown hrest
      simp only [if_pos hgrown]
      refine ⟨hnext.total_le, Nat.succ_le_succ hnext.count_le, ?_, ?_, ?_, ?_⟩
      · rw [List.length_cons, Nat.add_sub_add_right, Nat.ofDigitChars_cons, Nat.mul_comm 10]
        exact hnext.low
      · rw [List.length_cons, Nat.add_sub_add_right, Nat.ofDigitChars_cons, Nat.mul_comm 10]
        exact hnext.high
      · exact hnext.full.imp_left fun hcount => by rw [hcount, List.length_cons]
      · rw [Nat.pow_succ', ← Nat.mul_assoc]
        exact (Nat.mul_le_mul_right _ (Nat.le_add_right _ _)).trans hnext.extends_value
    · -- The digit has no room, so nothing is gathered from here on.
      obtain ⟨hlow, hhigh⟩ := ofDigitChars_bounds value hdigits
      have hdigit := digit_le hc
      have hlimit : significandLimit = 2 ^ 64 - 1 := rfl
      have hfull : 2 ^ 60 ≤ value := by omega
      simp only [if_neg hgrown]
      exact ⟨hvalue, Nat.zero_le _, hlow, hhigh, .inr hfull, by rw [Nat.pow_zero, Nat.mul_one]⟩

section Loss

variable {number front total power left scale : ℚ}

/-- All digits in front of the point have been gathered, and as many behind it as there is room for:
`left` is the power of ten of the others. -/
theorem abs_sub_le_of_behind (hscale : 0 < scale) (hleft : 0 < left) (hlow : total * left ≤ number)
    (hhigh : number < (total + 1) * left) (hfull : 2 ^ 60 ≤ total) :
    |number / (scale * left) - total / scale| ≤ total / scale / 2 ^ 60 := by
  have hsplit : number / (scale * left) - total / scale = (number / left - total) / scale := by
    field_simp
  have hbelow : total ≤ number / left := (le_div_iff₀ hleft).2 hlow
  have habove : number / left < total + 1 := (div_lt_iff₀ hleft).2 hhigh
  rw [hsplit, abs_of_nonneg (div_nonneg (by linarith) hscale.le), div_right_comm]
  gcongr
  linarith

/-- Digits in front of the point have been left out: whatever comes behind them, both numbers begin
with the same full significand. -/
theorem abs_sub_le_of_front {x y : ℚ} (hpower : 0 < power) (hfull : 2 ^ 60 ≤ front)
    (hxlow : front * power ≤ x) (hxhigh : x ≤ (front + 1) * power) (hylow : front * power ≤ y)
    (hyhigh : y ≤ (front + 1) * power) : |x - y| ≤ y / 2 ^ 60 := by
  have hunit : power ≤ front * power / 2 ^ 60 := by
    rw [le_div_iff₀ (by positivity), mul_comm]
    gcongr
  have hdistance : |x - y| ≤ power := by
    rw [abs_le]
    constructor <;> linarith
  calc |x - y| ≤ power := hdistance
    _ ≤ front * power / 2 ^ 60 := hunit
    _ ≤ y / 2 ^ 60 := by gcongr

end Loss

theorem Gathers.eq_of_all {value total count : ℕ} {digits : List Char}
    (h : Gathers value digits total count) (hcount : count = digits.length) :
    Nat.ofDigitChars 10 digits value = total := by
  have hlow := h.low
  have hhigh := h.high
  rw [hcount, Nat.sub_self, Nat.pow_zero, Nat.mul_one] at hlow hhigh
  omega

/-- The significand stays below the next one that its first digits allow. -/
theorem Gathers.total_lt {value total count : ℕ} {digits : List Char}
    (h : Gathers value digits total count) (hdigits : ∀ c ∈ digits, isDigit c) :
    total < (value + 1) * 10 ^ count := by
  have hhigh := (ofDigitChars_bounds value hdigits).2
  have hsplit : 10 ^ digits.length = 10 ^ count * 10 ^ (digits.length - count) := by
    rw [← Nat.pow_add, Nat.add_sub_cancel' h.count_le]
  rw [hsplit, ← Nat.mul_assoc] at hhigh
  exact Nat.lt_of_mul_lt_mul_right (h.low.trans_lt hhigh)

/-- The number that is held is near the one that is written. -/
theorem abs_written_sub_held_le (hwhole : ∀ c ∈ whole, isDigit c)
    (hfraction : ∀ c ∈ fraction, isDigit c) :
    |(Nat.ofDigitChars 10 (whole ++ fraction) 0 : ℚ) / 10 ^ fraction.length -
        (held whole fraction).value| ≤ (held whole fraction).value / 2 ^ 60 := by
  have hfront := gathers_gather (Nat.zero_le _) hwhole
  have hbehind := gathers_gather hfront.total_le hfraction
  rw [held, Nat.ofDigitChars_append]
  generalize gather significandLimit 0 whole = front at hfront hbehind ⊢
  generalize gather significandLimit front.1 fraction = behind at hbehind ⊢
  obtain ⟨t, count⟩ := front
  obtain ⟨total, countBehind⟩ := behind
  dsimp only at hfront hbehind ⊢
  have hvalue : (⟨total, ((whole.length - count : ℕ) : ℤ) - countBehind⟩ : Decimal).value =
      total * 10 ^ (whole.length - count) / 10 ^ countBehind := by
    rw [Decimal.value, zpow_sub₀ (by norm_num), zpow_natCast, zpow_natCast, mul_div_assoc]
  rw [hvalue]
  rcases hfront.full with hall | hfull
  · rw [hfront.eq_of_all hall, hall, Nat.sub_self, pow_zero, mul_one]
    rcases hbehind.full with hrest | hfull
    · rw [hbehind.eq_of_all hrest, hrest, sub_self, abs_zero]
      positivity
    · have hsplit : (10 : ℚ) ^ fraction.length =
          10 ^ countBehind * 10 ^ (fraction.length - countBehind) := by
        rw [← pow_add, Nat.add_sub_cancel' hbehind.count_le]
      rw [hsplit]
      exact abs_sub_le_of_behind (by positivity) (by positivity) (by exact_mod_cast hbehind.low)
        (by exact_mod_cast hbehind.high) (by exact_mod_cast hfull)
  · have hpower : (0 : ℚ) < 10 ^ (whole.length - count) := by positivity
    have hlow : (t : ℚ) * 10 ^ (whole.length - count) ≤ Nat.ofDigitChars 10 whole 0 := by
      exact_mod_cast hfront.low
    have hhigh : (Nat.ofDigitChars 10 whole 0 : ℚ) + 1 ≤ (t + 1) * 10 ^ (whole.length - count) := by
      exact_mod_cast hfront.high
    obtain ⟨hnumberlow, hnumberhigh⟩ :=
      ofDigitChars_bounds (Nat.ofDigitChars 10 whole 0) hfraction
    have hbegin : (2 : ℚ) ^ 60 ≤ t := by exact_mod_cast hfull
    refine abs_sub_le_of_front hpower hbegin ?_ ?_ ?_ ?_
    · refine hlow.trans ?_
      rw [le_div_iff₀ (by positivity)]
      exact_mod_cast hnumberlow
    · refine le_trans ?_ hhigh
      rw [div_le_iff₀ (by positivity)]
      exact_mod_cast hnumberhigh.le
    · rw [le_div_iff₀ (by positivity), mul_right_comm]
      gcongr
      exact_mod_cast hbehind.extends_value
    · rw [div_le_iff₀ (by positivity), mul_right_comm]
      gcongr
      exact_mod_cast (hbehind.total_lt hfraction).le

theorem coefficient_held_le (hwhole : ∀ c ∈ whole, isDigit c)
    (hfraction : ∀ c ∈ fraction, isDigit c) :
    (held whole fraction).coefficient ≤ significandLimit := by
  have hfront := gathers_gather (Nat.zero_le _) hwhole
  exact (gathers_gather hfront.total_le hfraction).total_le

/-- Nothing is lost of digits that denote a number of 64 bits. -/
theorem held_of_le (h : Nat.ofDigitChars 10 (whole ++ fraction) 0 ≤ significandLimit) :
    held whole fraction =
      ⟨Nat.ofDigitChars 10 (whole ++ fraction) 0, -(fraction.length : ℤ)⟩ := by
  rw [Nat.ofDigitChars_append] at h ⊢
  have hwhole := (le_ofDigitChars _ fraction).trans h
  simp [held, gather_of_le hwhole, gather_of_le h]

end SeriesQuery.Json
