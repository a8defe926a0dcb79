import SeriesQuery.Proofs.Params.Entry

/-!
# Integers of params files

The reader keeps a number without fraction and exponent as an integer if it is a word, signed or
unsigned, and not minus zero. Every other one has become a double by the time a cell is made of it.
So an integer that 64 signed bits do not hold is refused only as long as 64 unsigned bits hold it.
-/

namespace SeriesQuery.Params

/-- A number without fraction and exponent, as it is written. -/
structure IntegerLiteral where
  negative : Bool
  digits : List Char
  numeral : Json.IsNumeral digits

namespace IntegerLiteral

variable (l : IntegerLiteral)

def magnitude : Nat :=
  Nat.ofDigitChars 10 l.digits 0

def value : Int :=
  if l.negative then -l.magnitude else l.magnitude

def text : List Char :=
  if l.negative then '-' :: l.digits else l.digits

/-- The reader takes the literal for a word. -/
def StaysInteger : Prop :=
  Json.IsWord l.value ∧ ¬(l.negative ∧ l.magnitude = 0)

theorem readTree_text (allowed : Nat) (rest : List Char) :
    Json.readTree allowed (l.text ++ rest) =
      Json.mapValue Json.number (Json.readNumber l.negative (l.digits ++ rest)) := by
  rw [text]
  cases l.negative with
  | true => exact Json.readTree_minus allowed (l.digits ++ rest)
  | false =>
    cases hdigits : l.digits with
    | nil => exact absurd hdigits l.numeral.nonempty
    | cons c more =>
      have hc : isDigit c := l.numeral.digit c (hdigits ▸ List.mem_cons_self)
      exact Json.readTree_digit hc allowed (more ++ rest)

theorem magnitude_le_of_isWord (h : Json.IsWord l.value) : l.magnitude ≤ Json.significandLimit := by
  rw [Json.IsWord, value] at h
  rw [Json.significandLimit]
  split at h <;> omega

theorem readTree_of_le (h : l.magnitude ≤ Json.significandLimit) (allowed : Nat) :
    Json.Reads (Json.readTree allowed) l.text
      (.number (Json.wholeNumber l.negative l.magnitude)) := by
  intro rest hrest
  rw [readTree_text, Json.reads_numeral l.numeral h l.negative rest hrest]
  rfl

theorem wholeNumber_of_stays (h : l.StaysInteger) :
    Json.wholeNumber l.negative l.magnitude = .integer l.value h.1 :=
  dif_pos h

theorem wholeNumber_of_not_stays (h : ¬l.StaysInteger) :
    Json.wholeNumber l.negative l.magnitude =
      .double (Json.signed l.negative (Double.ofNat l.magnitude)) :=
  dif_neg h

end IntegerLiteral

/-- What a file should make of an integer at a name: the integer itself if 64 signed bits hold it,
and otherwise an encoding error at the name. -/
def KeepsInteger (name : String) (n : Int) (outcome : Except Error (List (String × Cell))) : Prop :=
  if -2 ^ 63 ≤ n ∧ n < 2 ^ 63 then ∃ i : Int64, i.toInt = n ∧ outcome = .ok [(name, .integer i)]
  else ∃ e, outcome = .error e ∧ e.kind = .encoding ∧ e.parameter = some name

theorem keepsInteger_entryOfMember (name : String) {n : Int} (h : Json.IsWord n) :
    KeepsInteger name n
      ((entryOfMember (name, .number (.integer n h))).map ([·])) := by
  have hword := h
  rw [Json.IsWord] at hword
  rw [KeepsInteger, entryOfMember, cellOfJson, cellOfNumber_integer]
  by_cases hn : n < 2 ^ 63
  · rw [if_pos ⟨hword.1, hn⟩, if_pos hn]
    exact ⟨Int64.ofInt n, Int64.toInt_ofInt_of_le hword.1 hn, rfl⟩
  · rw [if_neg (fun hlong => hn hlong.2), if_neg hn]
    exact ⟨_, rfl, rfl, rfl⟩

theorem not_keepsInteger_ofDouble (name : String) (n : Int) (x : Double) :
    ¬KeepsInteger name n (.ok [(name, .ofDouble x)]) := by
  rw [KeepsInteger]
  split
  · rintro ⟨i, _, hcell⟩
    cases hcell
  · rintro ⟨e, hfailed, _⟩
    cases hfailed

theorem not_keepsInteger_of_usage (name : String) (n : Int) {e : Error} (he : e.kind = .usage) :
    ¬KeepsInteger name n (.error e) := by
  rw [KeepsInteger]
  split
  · rintro ⟨i, _, hcell⟩
    cases hcell
  · rintro ⟨failure, hfailed, hkind, _⟩
    cases hfailed
    rw [he] at hkind
    cases hkind

section Files

variable (path : String) {name : String} (frame : Frame name) (l : IntegerLiteral)

theorem keepsInteger_of_stays (h : l.StaysInteger) :
    KeepsInteger name l.value (ofFile path (.ok (frame.file l.text))) := by
  have hread := l.readTree_of_le (l.magnitude_le_of_isWord h.1) Json.memberDepth _ frame.endsNumber_behind
  rw [l.wholeNumber_of_stays h] at hread
  rw [frame.ofFile_of_ok path hread]
  exact keepsInteger_entryOfMember name h.1

theorem ofFile_of_not_stays (h : ¬l.StaysInteger) (hl : l.magnitude < 2 ^ 64) :
    ofFile path (.ok (frame.file l.text)) =
      .ok [(name, .ofDouble (Json.signed l.negative (Double.ofNat l.magnitude)))] := by
  have hread := l.readTree_of_le (Nat.le_sub_one_of_lt hl) Json.memberDepth _ frame.endsNumber_behind
  rw [l.wholeNumber_of_not_stays h] at hread
  rw [frame.ofFile_of_ok path hread]
  rfl

theorem ofFile_of_le_magnitude (hl : 2 ^ 64 ≤ l.magnitude) :
    (∃ x, ofFile path (.ok (frame.file l.text)) = .ok [(name, .ofDouble x)]) ∨
      ∃ e, ofFile path (.ok (frame.file l.text)) = .error e ∧ e.kind = .usage := by
  have hlimit : Json.significandLimit < l.magnitude := by
    rw [Json.significandLimit]
    omega
  obtain ⟨significand, exponent, hnumber⟩ :=
    Json.readNumber_of_limit_lt l.numeral frame.endsNumber_behind hlimit l.negative
  have hread := l.readTree_text Json.memberDepth frame.behind
  rw [hnumber, Json.scaledNumber] at hread
  cases hscaled : Json.scaled? significand exponent with
  | none =>
    rw [hscaled] at hread
    exact .inr (frame.ofFile_of_error path hread)
  | some x =>
    rw [hscaled] at hread
    exact .inl ⟨_, frame.ofFile_of_ok path hread⟩

end Files

/-- A file with one entry keeps its integer exactly when that is a word, signed or unsigned, and not
minus zero. Any other integer becomes a double as long as the reader can hold its digits, and beyond
that a double or no number at all. -/
theorem integers_kept_iff (path : String) {name : String} (frame : Frame name)
    (l : IntegerLiteral) :
    (KeepsInteger name l.value (ofFile path (.ok (frame.file l.text))) ↔ l.StaysInteger) ∧
    (¬l.StaysInteger → l.magnitude < 2 ^ 64 →
      ofFile path (.ok (frame.file l.text)) =
        .ok [(name, .ofDouble (Json.signed l.negative (Double.ofNat l.magnitude)))]) ∧
    (2 ^ 64 ≤ l.magnitude →
      (∃ x, ofFile path (.ok (frame.file l.text)) = .ok [(name, .ofDouble x)]) ∨
        ∃ e, ofFile path (.ok (frame.file l.text)) = .error e ∧ e.kind = .usage) := by
  refine ⟨⟨fun hkept => ?_, keepsInteger_of_stays path frame l⟩, ofFile_of_not_stays path frame l,
    ofFile_of_le_magnitude path frame l⟩
  by_cases h : l.StaysInteger
  · exact h
  · rcases Nat.lt_or_ge l.magnitude (2 ^ 64) with hl | hl
    · rw [ofFile_of_not_stays path frame l h hl] at hkept
      exact absurd hkept (not_keepsInteger_ofDouble name _ _)
    · rcases ofFile_of_le_magnitude path frame l hl with ⟨x, hcell⟩ | ⟨e, hfailed, he⟩
      · rw [hcell] at hkept
        exact absurd hkept (not_keepsInteger_ofDouble name _ x)
      · rw [hfailed] at hkept
        exact absurd hkept (not_keepsInteger_of_usage name _ he)

/-- The least integer of 64 signed bits is kept and the one below it is not, in a file with white
space and a name with an escape. -/
theorem integers_kept_iff_at_least_long :
    ∃ (frame : Frame ":n") (least below : IntegerLiteral),
      frame.text least.text = " \x7b \"\\u003an\" : -9223372036854775808 \x7d ".toList ∧
      least.value = -2 ^ 63 ∧ below.value = -2 ^ 63 - 1 ∧
      KeepsInteger ":n" least.value (ofFile "p" (.ok (frame.file least.text))) ∧
      ¬KeepsInteger ":n" below.value (ofFile "p" (.ok (frame.file below.text))) ∧
      ofFile "p" (.ok (frame.file below.text)) = .ok [(":n", .ofDouble ⟨0xC3E0000000000000⟩)] := by
  let frame : Frame ":n" :=
    { key := ['\\', 'u', '0', '0', '3', 'a', 'n']
      spells := show Json.Spells _ [Char.ofNat 58, 'n'] from
        .unit (by decide) (by decide) (by decide) (.plain (by decide) (by decide) (by decide) .nil)
      gap := fun _ => [' ']
      blank := fun _ _ hc => List.mem_singleton.1 hc ▸ rfl }
  let literal (n : Nat) : IntegerLiteral := ⟨true, Nat.toDigits 10 n, Json.isNumeral_toDigits n⟩
  have hmagnitude (n : Nat) : (literal n).magnitude = n := Nat.ofDigitChars_ten_toDigits
  have hvalue (n : Nat) : (literal n).value = -n := congrArg (fun m : Nat => -(m : Int)) (hmagnitude n)
  have hstays : (literal (2 ^ 63)).StaysInteger := by
    rw [IntegerLiteral.StaysInteger, hvalue, hmagnitude]
    decide
  have hlost : ¬(literal (2 ^ 63 + 1)).StaysInteger := by
    rw [IntegerLiteral.StaysInteger, hvalue, hmagnitude]
    decide
  have hbelow := integers_kept_iff "p" frame (literal (2 ^ 63 + 1))
  have houtcome := hbelow.2.1 hlost (by rw [hmagnitude]; decide)
  rw [hmagnitude] at houtcome
  exact ⟨frame, literal (2 ^ 63), literal (2 ^ 63 + 1), by decide +kernel, hvalue _, hvalue _,
    (integers_kept_iff "p" frame (literal (2 ^ 63))).1.2 hstays, fun hkept => hlost (hbelow.1.1 hkept),
    houtcome.trans (by decide +kernel)⟩

/-- The least positive integer that no word holds. -/
theorem integer_past_words_becomes_double :
    ∃ content, content = Utf8.ofString "\x7b\":n\":18446744073709551616\x7d" ∧
      ofFile "p" (.ok content) = .ok [(":n", .ofDouble ⟨0x43F0000000000000⟩)] ∧
      ¬KeepsInteger ":n" 18446744073709551616 (ofFile "p" (.ok content)) := by
  have houtcome : ofFile "p" (.ok (Utf8.ofString "\x7b\":n\":18446744073709551616\x7d")) =
      .ok [(":n", .ofDouble ⟨0x43F0000000000000⟩)] := by decide +kernel
  refine ⟨_, rfl, houtcome, ?_⟩
  rw [houtcome]
  exact not_keepsInteger_ofDouble ":n" _ _

end SeriesQuery.Params
