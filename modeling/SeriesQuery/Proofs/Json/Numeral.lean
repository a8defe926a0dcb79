import SeriesQuery.Json.Lexical
import SeriesQuery.Proofs.Json.Lexical
import SeriesQuery.Proofs.Number.Digits
import SeriesQuery.Proofs.Text.Span

/-!
# Numerals are read to their end

The digits of a whole number are read up to the first character that is none of them. Their value is
what they denote as long as the significand can hold it. Otherwise the digits from the first one that
does not fit only count as powers of ten.
-/

namespace SeriesQuery.Json

/-- Only zero is written with a zero in front. -/
theorem tail_toDigits_of_zero {n : Nat} {rest : List Char} (h : Nat.toDigits 10 n = '0' :: rest) :
    rest = [] := by
  induction n using Nat.strongRecOn generalizing rest with
  | ind n ih =>
    by_cases hn : n < 10
    · rw [Nat.toDigits_of_lt_base hn] at h
      exact (List.cons.inj h).2.symm
    · rw [Nat.toDigits_of_base_le (by decide) (by omega)] at h
      obtain ⟨c, front, hfront, _⟩ := exists_toDigits_cons (n / 10)
      rw [hfront, List.cons_append] at h
      rw [(List.cons.inj h).1] at hfront
      have hempty : front = [] := ih (n / 10) (by omega) hfront
      -- All but the last digit would be a single zero, and then there would be only one digit.
      have hvalue := congrArg (Nat.ofDigitChars 10 · 0) hfront
      simp [hempty, Nat.ofDigitChars_cons] at hvalue
      omega

theorem EndsNumber.stopsAt {rest : List Char} (h : EndsNumber rest) : StopsAt isDigit rest :=
  fun c hc => (h c hc).1

theorem span_digits {digits rest : List Char} (hdigits : ∀ c ∈ digits, isDigit c)
    (hrest : EndsNumber rest) :
    (digits ++ rest).takeWhile isDigit = digits ∧ (digits ++ rest).dropWhile isDigit = rest :=
  span_append hdigits hrest.stopsAt

theorem gather_of_le {limit value : Nat} {digits : List Char}
    (h : Nat.ofDigitChars 10 digits value ≤ limit) :
    gather limit value digits = (Nat.ofDigitChars 10 digits value, digits.length) := by
  induction digits generalizing value with
  | nil => rfl
  | cons c rest ih =>
    rw [Nat.ofDigitChars_cons, Nat.mul_comm] at h
    have hgrown : value * 10 + (c.toNat - '0'.toNat) ≤ limit :=
      Nat.le_trans (le_ofDigitChars _ rest) h
    rw [gather, if_pos hgrown, ih h, Nat.ofDigitChars_cons, Nat.mul_comm 10]
    rfl

theorem gather_count_lt {limit value : Nat} {digits : List Char} (hvalue : value ≤ limit)
    (h : limit < Nat.ofDigitChars 10 digits value) :
    (gather limit value digits).2 < digits.length := by
  induction digits generalizing value with
  | nil =>
    rw [Nat.ofDigitChars_nil] at h
    exact absurd hvalue (Nat.not_le.2 h)
  | cons c rest ih =>
    rw [Nat.ofDigitChars_cons, Nat.mul_comm] at h
    rw [gather]
    by_cases hgrown : value * 10 + (c.toNat - '0'.toNat) ≤ limit
    · rw [if_pos hgrown]
      exact Nat.succ_lt_succ (ih hgrown h)
    · rw [if_neg hgrown]
      exact Nat.zero_lt_succ _

/-- Decimal digits with no zero in front of another digit. -/
structure IsNumeral (digits : List Char) : Prop where
  digit : ∀ c ∈ digits, isDigit c
  nonempty : digits ≠ []
  zero : ∀ rest, digits = '0' :: rest → rest = []

theorem isNumeral_toDigits (n : Nat) : IsNumeral (Nat.toDigits 10 n) where
  digit := fun _ hc => isDigit_of_mem_toDigits hc
  nonempty := Nat.toDigits_ne_nil
  zero := fun _ h => tail_toDigits_of_zero h

theorem IsNumeral.not_digit_behind_zero {c : Char} {front rest : List Char}
    (h : IsNumeral (c :: front)) (hrest : StopsAt isDigit rest) :
    ¬(c = '0' ∧ (front ++ rest).head?.any isDigit) := by
  rintro ⟨rfl, hnext⟩
  rw [h.zero front rfl, List.nil_append] at hnext
  cases rest with
  | nil => cases hnext
  | cons d rest => simp [hrest d rfl] at hnext

/-- How a number goes on behind its first digits. -/
def readBehind (negative : Bool) (significand : Nat) (dropped : Int) :
    List Char → Read (Number × List Char)
  | '.' :: rest => readFraction negative significand dropped rest
  | 'e' :: rest | 'E' :: rest => readExponent negative significand dropped rest
  | rest =>
    if dropped = 0 then .ok (wholeNumber negative significand, rest)
    else scaledNumber negative significand dropped rest

/-- The digits that the significand has no room for are left to the exponent. -/
theorem readNumber_append {digits rest : List Char} (h : IsNumeral digits)
    (hrest : StopsAt isDigit rest) (negative : Bool) :
    readNumber negative (digits ++ rest) =
      readBehind negative (gather significandLimit 0 digits).1
        (digits.length - (gather significandLimit 0 digits).2 : Nat) rest := by
  obtain ⟨htake, hdrop⟩ := span_append h.digit hrest
  cases digits with
  | nil => exact absurd rfl h.nonempty
  | cons c front =>
    have hc : isDigit c := h.digit c List.mem_cons_self
    have hzero := h.not_digit_behind_zero hrest
    rw [List.cons_append] at htake hdrop
    rw [List.cons_append, readNumber]
    simp only [hc, Bool.not_true, Bool.false_eq_true, if_false, if_neg hzero, htake, hdrop]
    rfl

/-- The number goes on neither with a point nor with an exponent. -/
theorem readNumber_numeral {digits rest : List Char} (h : IsNumeral digits) (hrest : EndsNumber rest)
    (negative : Bool) :
    readNumber negative (digits ++ rest) =
      let (significand, count) := gather significandLimit 0 digits
      if digits.length - count = 0 then .ok (wholeNumber negative significand, rest)
      else scaledNumber negative significand (digits.length - count : Nat) rest := by
  rw [readNumber_append h hrest.stopsAt, readBehind.eq_def]
  split
  · exact absurd rfl (hrest '.' rfl).2.1
  · exact absurd rfl (hrest 'e' rfl).2.2.1
  · exact absurd rfl (hrest 'E' rfl).2.2.2
  · simp only [Int.natCast_eq_zero]

theorem reads_numeral {digits : List Char} (h : IsNumeral digits)
    (hvalue : Nat.ofDigitChars 10 digits 0 ≤ significandLimit) (negative : Bool) :
    Reads (readNumber negative) digits (wholeNumber negative (Nat.ofDigitChars 10 digits 0)) := by
  intro rest hrest
  rw [readNumber_numeral h hrest, gather_of_le hvalue]
  simp only [Nat.sub_self, if_true]

/-- A numeral that no word holds is at most a double. -/
theorem readNumber_of_limit_lt {digits rest : List Char} (h : IsNumeral digits)
    (hrest : EndsNumber rest) (hvalue : significandLimit < Nat.ofDigitChars 10 digits 0)
    (negative : Bool) :
    ∃ significand exponent,
      readNumber negative (digits ++ rest) = scaledNumber negative significand exponent rest := by
  have hcount := gather_count_lt (Nat.zero_le _) hvalue
  refine ⟨_, _, (readNumber_numeral h hrest negative).trans (if_neg ?_)⟩
  omega

/-- The digits of a word are read back up to the end of the number. -/
theorem readNumber_toDigits {n : Nat} (hn : n ≤ significandLimit) (negative : Bool) :
    Reads (readNumber negative) (Nat.toDigits 10 n) (wholeNumber negative n) := by
  have hvalue : Nat.ofDigitChars 10 (Nat.toDigits 10 n) 0 = n := Nat.ofDigitChars_ten_toDigits
  have hread := reads_numeral (isNumeral_toDigits n) (by rwa [hvalue]) negative
  rwa [hvalue] at hread

end SeriesQuery.Json
