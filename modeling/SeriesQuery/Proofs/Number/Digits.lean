import SeriesQuery.Number.Decimal
import SeriesQuery.Proofs.Text.Span

/-!
# Decimal digits

The digits of a natural number are never none, and all of them are digits in the sense of every
reader here. A number only grows as digits are read on.
-/

namespace SeriesQuery

theorem isDigit_iff_toNat {c : Char} : isDigit c ↔ 0x30 ≤ c.toNat ∧ c.toNat ≤ 0x39 := by
  simp only [isDigit, Bool.and_eq_true, decide_eq_true_eq, Char.le_def, UInt32.le_iff_toNat_le]
  rfl

theorem isDigit_ne {c d : Char} (hc : isDigit c) (hd : isDigit d = false) : c ≠ d := by
  rintro rfl
  rw [hc] at hd
  cases hd

theorem isDigit_of_mem_toDigits {n : Nat} {c : Char} (h : c ∈ Nat.toDigits 10 n) : isDigit c := by
  have hdigit := Nat.isDigit_of_mem_toDigits (by decide) (by decide) h
  exact isDigit_iff_toNat.2 (Char.isDigit_iff_toNat.1 hdigit)

theorem isBlank_of_isDigit {c : Char} (h : isDigit c) : isBlank c = false := by
  have hbounds := isDigit_iff_toNat.1 h
  simp [isBlank]
  omega

theorem solid_digits {digits : List Char} (h : ∀ c ∈ digits, isDigit c) : Solid digits := by
  intro c hc
  exact isBlank_of_isDigit (h c hc)

/-- The digits of a natural number, with the first one apart. -/
theorem exists_toDigits_cons (n : Nat) :
    ∃ c rest, Nat.toDigits 10 n = c :: rest ∧ isDigit c := by
  cases hdigits : Nat.toDigits 10 n with
  | nil => exact absurd hdigits Nat.toDigits_ne_nil
  | cons c rest =>
    have hmem : c ∈ Nat.toDigits 10 n := by
      rw [hdigits]
      exact List.mem_cons_self
    exact ⟨c, rest, rfl, isDigit_of_mem_toDigits hmem⟩

theorem le_ofDigitChars (value : Nat) (digits : List Char) :
    value ≤ Nat.ofDigitChars 10 digits value := by
  rw [Nat.ofDigitChars_eq_ofDigitChars_zero]
  exact Nat.le_trans (Nat.le_mul_of_pos_left _ (Nat.pow_pos (by decide))) (Nat.le_add_right _ _)

theorem digit_le {c : Char} (h : isDigit c) : c.toNat - '0'.toNat ≤ 9 := by
  have hbounds := isDigit_iff_toNat.1 h
  have hzero : '0'.toNat = 0x30 := rfl
  omega

/-- Each digit is a decimal place. -/
theorem ofDigitChars_bounds (value : Nat) {digits : List Char} (h : ∀ c ∈ digits, isDigit c) :
    value * 10 ^ digits.length ≤ Nat.ofDigitChars 10 digits value ∧
      Nat.ofDigitChars 10 digits value < (value + 1) * 10 ^ digits.length := by
  induction digits generalizing value with
  | nil => simp
  | cons c rest ih =>
    obtain ⟨hc, hrest⟩ := List.forall_mem_cons.1 h
    have hdigit := digit_le hc
    obtain ⟨hlow, hhigh⟩ := ih (10 * value + (c.toNat - '0'.toNat)) hrest
    rw [Nat.ofDigitChars_cons, List.length_cons, Nat.pow_succ', ← Nat.mul_assoc, ← Nat.mul_assoc]
    constructor
    · exact Nat.le_trans (Nat.mul_le_mul_right _ (by omega)) hlow
    · exact Nat.lt_of_lt_of_le hhigh (Nat.mul_le_mul_right _ (by omega))

end SeriesQuery
