import SeriesQuery.Number.Integer
import SeriesQuery.Proofs.Json.Lexical
import SeriesQuery.Proofs.Number.Digits

/-!
# Integers of a range

Digits are read one by one and judged at once, but the outcome is that of the whole row: every
character is a digit, and the number that they denote lies within the limit. With a sign in front
this holds on both sides of zero. So the decimal text of a number of the range is read as the
number, and nothing but digits can stand behind the first character of any text that is read.
-/

namespace SeriesQuery

theorem digitValue?_of_isDigit {c : Char} (h : isDigit c) :
    digitValue? c = some (c.toNat - '0'.toNat) :=
  if_pos (by simpa [isDigit] using h)

theorem digitValue?_of_not_isDigit {c : Char} (h : ¬isDigit c) : digitValue? c = none :=
  if_neg (by simpa [isDigit] using h)

/-- A digit that leads out of the limit cannot be made up for by the digits behind it. -/
theorem boundedDigits_eq_ok_iff {limit value n : Nat} {excess : IntegerFlaw} {digits : List Char}
    (hvalue : value ≤ limit) :
    Radix.decimal.boundedDigits limit excess value digits = .ok n ↔
      (∀ c ∈ digits, isDigit c) ∧ Nat.ofDigitChars 10 digits value = n ∧ n ≤ limit := by
  induction digits generalizing value with
  | nil =>
    simp only [Radix.boundedDigits, Except.ok.injEq, List.not_mem_nil, false_implies, implies_true,
      true_and, Nat.ofDigitChars_nil]
    constructor
    · rintro rfl
      exact ⟨rfl, hvalue⟩
    · exact fun h => h.1
  | cons c rest ih =>
    rw [Nat.ofDigitChars_cons, Nat.mul_comm 10, List.forall_mem_cons]
    by_cases hc : isDigit c
    · have hd : Radix.decimal.value? c = some (c.toNat - '0'.toNat) := digitValue?_of_isDigit hc
      simp only [hc, true_and]
      by_cases hgrown : value * 10 + (c.toNat - '0'.toNat) ≤ limit
      · rw [Radix.boundedDigits_digit hd hgrown]
        exact ih hgrown
      · rw [Radix.boundedDigits_excess hd hgrown]
        have hle := le_ofDigitChars (value * 10 + (c.toNat - '0'.toNat)) rest
        simp only [reduceCtorEq, false_iff]
        rintro ⟨-, rfl, hn⟩
        omega
    · rw [Radix.boundedDigits_invalid (digitValue?_of_not_isDigit hc)]
      simp [hc]

theorem boundedDigits_toDigits {limit n : Nat} (excess : IntegerFlaw) (h : n ≤ limit) :
    Radix.decimal.boundedDigits limit excess 0 (Nat.toDigits 10 n) = .ok n := by
  apply (boundedDigits_eq_ok_iff (Nat.zero_le limit)).2
  exact ⟨fun c hc => isDigit_of_mem_toDigits hc, Nat.ofDigitChars_ten_toDigits, h⟩

theorem isDigit_of_boundedDigits {limit n : Nat} {excess : IntegerFlaw} {digits : List Char}
    (h : Radix.decimal.boundedDigits limit excess 0 digits = .ok n) : ∀ c ∈ digits, isDigit c :=
  ((boundedDigits_eq_ok_iff (Nat.zero_le limit)).1 h).1

namespace IntegerRange

/-- A text with no sign in front is a row of digits. -/
theorem parseIn_of_ne (range : IntegerRange) (radix : Radix) {c : Char} (hplus : c ≠ '+')
    (hminus : c ≠ '-') (rest : List Char) :
    range.parseIn radix (c :: rest) =
      (radix.boundedDigits range.high.toNat .tooLarge 0 (c :: rest)).map Int.ofNat := by
  unfold parseIn
  split
  · contradiction
  · rename_i heq
    exact absurd (List.cons.inj heq).1 hplus
  · rename_i heq
    exact absurd (List.cons.inj heq).1 hminus
  · rename_i heq
    exact absurd (List.cons.inj heq).1 hplus
  · rename_i heq
    exact absurd (List.cons.inj heq).1 hminus
  · rfl

theorem parse_of_isDigit (range : IntegerRange) {c : Char} (h : isDigit c) (rest : List Char) :
    range.parse (c :: rest) =
      (Radix.decimal.boundedDigits range.high.toNat .tooLarge 0 (c :: rest)).map Int.ofNat := by
  apply parseIn_of_ne
  · rintro rfl
    contradiction
  · rintro rfl
    contradiction

theorem parse_minus (range : IntegerRange) (hlow : range.low < 0) {digits : List Char}
    (hdigits : digits ≠ []) :
    range.parse ('-' :: digits) =
      (Radix.decimal.boundedDigits (-range.low).toNat .tooSmall 0 digits).map
        fun n : Nat => -(n : Int) := by
  cases digits with
  | nil => contradiction
  | cons c rest =>
    refine (if_pos hlow).trans ?_
    cases Radix.decimal.boundedDigits (-range.low).toNat .tooSmall 0 (c :: rest) <;> rfl

theorem parse_plus (range : IntegerRange) {digits : List Char} (hdigits : digits ≠ []) :
    range.parse ('+' :: digits) =
      (Radix.decimal.boundedDigits range.high.toNat .tooLarge 0 digits).map Int.ofNat := by
  cases digits with
  | nil => contradiction
  | cons c rest => rfl

/-- The decimal text of a number of the range is read as the number. -/
theorem parse_toString (range : IntegerRange) {n : Int} (hlow : range.low ≤ n)
    (hhigh : n ≤ range.high) : range.parse (toString n).toList = .ok n := by
  rw [Int.toString_eq_repr, Int.repr_eq_if]
  split
  · rename_i hn
    obtain ⟨c, rest, hdigits, hc⟩ := exists_toDigits_cons n.toNat
    rw [Nat.toList_repr, hdigits, range.parse_of_isDigit hc, ← hdigits,
      boundedDigits_toDigits _ (by omega)]
    exact congrArg Except.ok (Int.toNat_of_nonneg hn)
  · rename_i hn
    rw [String.toList_append, Nat.toList_repr]
    refine (range.parse_minus (by omega) Nat.toDigits_ne_nil).trans ?_
    rw [boundedDigits_toDigits _ (by omega)]
    apply congrArg Except.ok
    show -((-n).toNat : Int) = n
    omega

/-- Behind the first character, which can be a sign, there are only digits. -/
theorem exists_cons_of_parse {range : IntegerRange} {text : List Char} {n : Int}
    (h : range.parse text = .ok n) :
    ∃ c rest, text = c :: rest ∧ (c = '+' ∨ c = '-' ∨ isDigit c) ∧ ∀ d ∈ rest, isDigit d := by
  unfold parse parseIn at h
  split at h
  · contradiction
  · contradiction
  · contradiction
  · obtain ⟨value, hvalue, -⟩ := exists_of_map_eq_ok h
    exact ⟨'+', _, rfl, .inl rfl, isDigit_of_boundedDigits hvalue⟩
  · split at h
    · obtain ⟨value, hvalue, -⟩ := exists_of_map_eq_ok h
      obtain ⟨value, hvalue, -⟩ := exists_of_bind_eq_ok hvalue
      exact ⟨'-', _, rfl, .inr (.inl rfl), isDigit_of_boundedDigits hvalue⟩
    · contradiction
  · obtain ⟨value, hvalue, -⟩ := exists_of_map_eq_ok h
    cases text with
    | nil => contradiction
    | cons c rest =>
      obtain ⟨hc, hrest⟩ := List.forall_mem_cons.1 (isDigit_of_boundedDigits hvalue)
      exact ⟨c, rest, rfl, .inr (.inr hc), hrest⟩

theorem solid_of_parse {range : IntegerRange} {text : List Char} {n : Int}
    (h : range.parse text = .ok n) : Solid text ∧ text ≠ [] := by
  obtain ⟨c, rest, rfl, hc, hrest⟩ := exists_cons_of_parse h
  have hblank : isBlank c = false := by
    rcases hc with rfl | rfl | hc
    · rfl
    · rfl
    · exact isBlank_of_isDigit hc
  exact ⟨solid_cons.2 ⟨hblank, solid_digits hrest⟩, List.cons_ne_nil c rest⟩

end IntegerRange

/-- The texts of a whole number: an optional sign, and at least one digit. -/
inductive WritesInteger : List Char → Int → Prop where
  | plain {digits : List Char} : digits ≠ [] → (∀ c ∈ digits, isDigit c) →
      WritesInteger digits (Nat.ofDigitChars 10 digits 0 : Nat)
  | plus {digits : List Char} : digits ≠ [] → (∀ c ∈ digits, isDigit c) →
      WritesInteger ('+' :: digits) (Nat.ofDigitChars 10 digits 0 : Nat)
  | minus {digits : List Char} : digits ≠ [] → (∀ c ∈ digits, isDigit c) →
      WritesInteger ('-' :: digits) (-(Nat.ofDigitChars 10 digits 0 : Nat))

theorem WritesInteger.solid {text : List Char} {n : Int} (h : WritesInteger text n) :
    Solid text := by
  cases h with
  | plain _ hdigits => exact solid_digits hdigits
  | plus _ hdigits | minus _ hdigits => exact solid_cons.2 ⟨rfl, solid_digits hdigits⟩

namespace IntegerRange

variable {range : IntegerRange} {text digits : List Char} {n : Int}

/-- A row of digits without a minus sign in front. -/
theorem upward_eq_ok_iff :
    (Radix.decimal.boundedDigits range.high.toNat .tooLarge 0 digits).map Int.ofNat = .ok n ↔
      (∀ c ∈ digits, isDigit c) ∧ n = (Nat.ofDigitChars 10 digits 0 : Nat) ∧ n ≤ range.high := by
  have hhigh := range.high_nonneg
  constructor
  · intro h
    obtain ⟨value, hvalue, rfl⟩ := exists_of_map_eq_ok h
    obtain ⟨hdigits, rfl, hle⟩ := (boundedDigits_eq_ok_iff (Nat.zero_le _)).1 hvalue
    exact ⟨hdigits, rfl, by rw [Int.ofNat_eq_natCast]; omega⟩
  · rintro ⟨hdigits, rfl, hle⟩
    rw [(boundedDigits_eq_ok_iff (Nat.zero_le _)).2 ⟨hdigits, rfl, by omega⟩]
    rfl

theorem downward_eq_ok_iff :
    ((Radix.decimal.boundedDigits (-range.low).toNat .tooSmall 0 digits).map
        fun n : Nat => -(n : Int)) = .ok n ↔
      (∀ c ∈ digits, isDigit c) ∧ n = -(Nat.ofDigitChars 10 digits 0 : Nat) ∧ range.low ≤ n := by
  have hlow := range.low_nonpos
  constructor
  · intro h
    obtain ⟨value, hvalue, rfl⟩ := exists_of_map_eq_ok h
    obtain ⟨hdigits, rfl, hle⟩ := (boundedDigits_eq_ok_iff (Nat.zero_le _)).1 hvalue
    exact ⟨hdigits, rfl, by omega⟩
  · rintro ⟨hdigits, rfl, hle⟩
    rw [(boundedDigits_eq_ok_iff (Nat.zero_le _)).2 ⟨hdigits, rfl, by omega⟩]
    rfl

theorem writesInteger_of_parse (hsigned : range.low < 0) (h : range.parse text = .ok n) :
    WritesInteger text n ∧ range.low ≤ n ∧ n ≤ range.high := by
  have hhigh := range.high_nonneg
  obtain ⟨c, rest, rfl, hc, -⟩ := exists_cons_of_parse h
  rcases hc with rfl | rfl | hc
  · have hne : rest ≠ [] := by
      rintro rfl
      cases h
    rw [range.parse_plus hne, upward_eq_ok_iff] at h
    obtain ⟨hdigits, rfl, hle⟩ := h
    exact ⟨.plus hne hdigits, by omega, hle⟩
  · have hne : rest ≠ [] := by
      rintro rfl
      cases h
    rw [range.parse_minus hsigned hne, downward_eq_ok_iff] at h
    obtain ⟨hdigits, rfl, hle⟩ := h
    exact ⟨.minus hne hdigits, hle, by omega⟩
  · rw [range.parse_of_isDigit hc, upward_eq_ok_iff] at h
    obtain ⟨hdigits, rfl, hle⟩ := h
    exact ⟨.plain (List.cons_ne_nil c rest) hdigits, by omega, hle⟩

/-- A range on both sides of zero takes the texts of its numbers and no others. -/
theorem parse_eq_ok_iff (hsigned : range.low < 0) :
    range.parse text = .ok n ↔ WritesInteger text n ∧ range.low ≤ n ∧ n ≤ range.high := by
  refine ⟨writesInteger_of_parse hsigned, ?_⟩
  rintro ⟨hwritten, hlow, hhigh⟩
  cases hwritten with
  | plain hne hdigits =>
    obtain ⟨c, rest, rfl⟩ := List.exists_cons_of_ne_nil hne
    rw [range.parse_of_isDigit (hdigits c List.mem_cons_self), upward_eq_ok_iff]
    exact ⟨hdigits, rfl, hhigh⟩
  | plus hne hdigits =>
    rw [range.parse_plus hne, upward_eq_ok_iff]
    exact ⟨hdigits, rfl, hhigh⟩
  | minus hne hdigits =>
    rw [range.parse_minus hsigned hne, downward_eq_ok_iff]
    exact ⟨hdigits, rfl, hlow⟩

theorem parse_int32_eq_ok_iff :
    int32.parse text = .ok n ↔ ∃ i : Int32, n = i.toInt ∧ WritesInteger text i.toInt := by
  rw [parse_eq_ok_iff (by decide)]
  constructor
  · rintro ⟨hwritten, hlow, hhigh⟩
    have hlow : -2 ^ 31 ≤ n := hlow
    have hhigh : n ≤ 2 ^ 31 - 1 := hhigh
    have hn : (Int32.ofInt n).toInt = n := Int32.toInt_ofInt_of_le hlow (by omega)
    exact ⟨Int32.ofInt n, hn.symm, hn.symm ▸ hwritten⟩
  · rintro ⟨i, rfl, hwritten⟩
    exact ⟨hwritten, i.le_toInt, i.toInt_le⟩

theorem parse_int64_eq_ok_iff :
    int64.parse text = .ok n ↔ ∃ i : Int64, n = i.toInt ∧ WritesInteger text i.toInt := by
  rw [parse_eq_ok_iff (by decide)]
  constructor
  · rintro ⟨hwritten, hlow, hhigh⟩
    have hlow : -2 ^ 63 ≤ n := hlow
    have hhigh : n ≤ 2 ^ 63 - 1 := hhigh
    have hn : (Int64.ofInt n).toInt = n := Int64.toInt_ofInt_of_le hlow (by omega)
    exact ⟨Int64.ofInt n, hn.symm, hn.symm ▸ hwritten⟩
  · rintro ⟨i, rfl, hwritten⟩
    exact ⟨hwritten, i.le_toInt, i.toInt_le⟩

theorem writesInteger_toString (i : Int64) : WritesInteger (toString i.toInt).toList i.toInt := by
  have hread : int64.parse (toString i.toInt).toList = .ok i.toInt :=
    int64.parse_toString i.le_toInt i.toInt_le
  exact (writesInteger_of_parse (by decide) hread).1

end IntegerRange

/-! ### Numbers without a minus sign -/

/-- The texts of a natural number: an optional plus sign, and at least one digit. -/
inductive WritesNatural : List Char → Nat → Prop where
  | plain {digits : List Char} : digits ≠ [] → (∀ c ∈ digits, isDigit c) →
      WritesNatural digits (Nat.ofDigitChars 10 digits 0)
  | plus {digits : List Char} : digits ≠ [] → (∀ c ∈ digits, isDigit c) →
      WritesNatural ('+' :: digits) (Nat.ofDigitChars 10 digits 0)

namespace IntegerRange

variable {range : IntegerRange} {text : List Char} {n : Int}

theorem parse_minus_of_low_eq_zero (hlow : range.low = 0) (digits : List Char) :
    range.parse ('-' :: digits) = .error .invalidDigit := by
  cases digits with
  | nil => rfl
  | cons c rest => exact if_neg (by omega)

/-- A range that starts at zero takes no minus sign, not even in front of zero. -/
theorem parse_eq_ok_iff_of_low_eq_zero (hlow : range.low = 0) :
    range.parse text = .ok n ↔
      ∃ value : Nat, n = value ∧ WritesNatural text value ∧ (value : Int) ≤ range.high := by
  constructor
  · intro h
    obtain ⟨c, rest, rfl, rfl | rfl | hc, -⟩ := exists_cons_of_parse h
    · have hne : rest ≠ [] := by
        rintro rfl
        cases h
      rw [range.parse_plus hne, upward_eq_ok_iff] at h
      obtain ⟨hdigits, rfl, hle⟩ := h
      exact ⟨_, rfl, .plus hne hdigits, hle⟩
    · rw [parse_minus_of_low_eq_zero hlow] at h
      cases h
    · rw [range.parse_of_isDigit hc, upward_eq_ok_iff] at h
      obtain ⟨hdigits, rfl, hle⟩ := h
      exact ⟨_, rfl, .plain (List.cons_ne_nil c rest) hdigits, hle⟩
  · rintro ⟨value, rfl, hwritten, hle⟩
    cases hwritten with
    | plain hne hdigits =>
      obtain ⟨c, rest, rfl⟩ := List.exists_cons_of_ne_nil hne
      rw [range.parse_of_isDigit (hdigits c List.mem_cons_self), upward_eq_ok_iff]
      exact ⟨hdigits, rfl, hle⟩
    | plus hne hdigits =>
      rw [range.parse_plus hne, upward_eq_ok_iff]
      exact ⟨hdigits, rfl, hle⟩

end IntegerRange

end SeriesQuery
