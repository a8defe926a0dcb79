import Mathlib.Tactic.SplitIfs
import SeriesQuery.Instant.Rfc3339
import SeriesQuery.Proofs.Json.Lexical
import SeriesQuery.Proofs.Text.Span

/-!
# The RFC 3339 texts

A text shows fields when it writes each of them with its number of digits and its mark: the date, a
separator, the time of day, a fraction that may be left out, and an offset. The separator should be
the letter T, but the reader takes any byte for it. Apart from that it takes the texts of fields that
lie in their ranges, and no others. A fraction has no end of its own, but an offset begins neither
with a digit nor with a point.
-/

namespace SeriesQuery.Rfc3339

/-- So many digits that denote a number. -/
structure IsNumber (width n : Nat) (digits : Bytes) : Prop where
  length : digits.length = width
  digit : ∀ b ∈ digits, isDigitByte b
  number : digitsNumber digits = n

/-- A fraction of a second in nanoseconds: a point and digits, of which nine count, or nothing. -/
inductive IsFraction : Nat → Bytes → Prop where
  | none : IsFraction 0 []
  | digits {digits : Bytes} : digits ≠ [] → (∀ b ∈ digits, isDigitByte b) →
      IsFraction (fractionNanos digits) (0x2E :: digits)

/-- An offset in minutes: the letter of universal time in either case, or a sign with hours and
minutes. -/
inductive IsOffset : Int → Bytes → Prop where
  | universal {letter : UInt8} : letter = 0x5A ∨ letter = 0x7A → IsOffset 0 [letter]
  | signed {mark : UInt8} {sign : Int} {hours minutes : Nat} {hourDigits minuteDigits : Bytes} :
      mark = 0x2B ∧ sign = 1 ∨ mark = 0x2D ∧ sign = -1 →
      IsNumber 2 hours hourDigits → hours ≤ 23 → IsNumber 2 minutes minuteDigits → minutes ≤ 59 →
      IsOffset (sign * (hours * 60 + minutes : Nat)) (mark :: (hourDigits ++ colon :: minuteDigits))

/-- The text writes the fields one after the other, with a separator between the date and the
time. -/
inductive ShowsWith (separator : UInt8) (f : Fields) : Bytes → Prop where
  | mk {year month day hour minute second fraction offset : Bytes} :
      IsNumber 4 f.year year → IsNumber 2 f.month month → IsNumber 2 f.day day →
      IsNumber 2 f.hour hour → IsNumber 2 f.minute minute → IsNumber 2 f.second second →
      IsFraction f.nanos fraction → IsOffset f.offsetMinutes offset →
      ShowsWith separator f (year ++ dash :: (month ++ dash :: (day ++ separator :: (hour ++ colon ::
        (minute ++ colon :: (second ++ (fraction ++ offset)))))))

/-- The text shows the fields, whatever separates the date from the time. -/
def Shows (f : Fields) (text : Bytes) : Prop :=
  ∃ separator, ShowsWith separator f text

/-- The letter T in either case. -/
def IsSeparator (b : UInt8) : Prop := b = 0x54 ∨ b = 0x74

/-- Each field lies in its range. A leap second is the last second of a month in universal time. -/
structure Fields.InRange (f : Fields) : Prop where
  month : 1 ≤ f.month ∧ f.month ≤ 12
  day : 1 ≤ f.day ∧ f.day ≤ Calendar.daysInMonth f.year f.month
  hour : f.hour ≤ 23
  minute : f.minute ≤ 59
  second : f.second ≤ 59 ∨ f.second = 60 ∧ f.endsMonth

/-- An RFC 3339 text: it shows fields that lie in their ranges, with the letter T before the time. -/
def IsText (text : Bytes) : Prop :=
  ∃ separator f, IsSeparator separator ∧ ShowsWith separator f text ∧ f.InRange

/-- The text shows fields that lie in their ranges, with any byte before the time. -/
def IsDateTime (text : Bytes) : Prop :=
  ∃ f, Shows f text ∧ f.InRange

/-! ### Parts -/

section Parts

variable {part : Part} {width n : Nat} {text rest digits : Bytes}

theorem readDigits_eq_ok_iff :
    readDigits part width text = .ok (n, rest) ↔
      ∃ digits, IsNumber width n digits ∧ text = digits ++ rest := by
  rw [readDigits]
  constructor
  · intro h
    split at h
    · rename_i hdigits
      obtain ⟨rfl, rfl⟩ := Prod.mk.inj (Except.ok.inj h)
      exact ⟨text.take width, ⟨hdigits.1, List.all_eq_true.1 hdigits.2, rfl⟩,
        (List.take_append_drop width text).symm⟩
    · cases h
  · rintro ⟨digits, ⟨hlength, hdigits, rfl⟩, rfl⟩
    rw [List.take_left' hlength, List.drop_left' hlength,
      if_pos ⟨hlength, List.all_eq_true.2 hdigits⟩]

theorem IsNumber.read (h : IsNumber width n digits) (part : Part) (rest : Bytes) :
    readDigits part width (digits ++ rest) = .ok (n, rest) :=
  readDigits_eq_ok_iff.2 ⟨digits, h, rfl⟩

theorem readMark_eq_ok_iff {mark : UInt8} : readMark mark text = .ok rest ↔ text = mark :: rest := by
  cases text with
  | nil => simp [readMark]
  | cons b tail =>
    rw [readMark]
    split <;> simp [*]

theorem readMark_cons (mark : UInt8) (rest : Bytes) : readMark mark (mark :: rest) = .ok rest :=
  readMark_eq_ok_iff.2 rfl

/-- What follows is neither a digit nor a point, so a fraction ends before it. -/
def EndsFraction (rest : Bytes) : Prop :=
  ∀ b ∈ rest.head?, isDigitByte b = false ∧ b ≠ 0x2E

theorem IsFraction.read {nanos : Nat} {fraction : Bytes} (h : IsFraction nanos fraction)
    (hrest : EndsFraction rest) : readFraction (fraction ++ rest) = .ok (nanos, rest) := by
  cases h with
  | none =>
    rw [List.nil_append, readFraction.eq_def]
    split
    · exact absurd rfl (hrest _ rfl).2
    · rfl
  | @digits digits hne hdigits =>
    obtain ⟨htake, hdrop⟩ := span_append_of_head hdigits fun b hb => (hrest b hb).1
    rw [List.cons_append, readFraction, htake, hdrop, if_neg (by simpa using hne)]

theorem exists_of_readFraction (h : readFraction text = .ok (n, rest)) :
    ∃ fraction, IsFraction n fraction ∧ text = fraction ++ rest := by
  unfold readFraction at h
  split at h
  · rename_i behind
    simp only at h
    split at h
    · cases h
    · rename_i hne
      obtain ⟨rfl, rfl⟩ := Prod.mk.inj (Except.ok.inj h)
      refine ⟨_, .digits (by simpa using hne) (List.all_eq_true.1 List.all_takeWhile), ?_⟩
      rw [List.cons_append, List.takeWhile_append_dropWhile]
  · obtain ⟨rfl, rfl⟩ := Prod.mk.inj (Except.ok.inj h)
    exact ⟨[], .none, rfl⟩

end Parts

section Offset

variable {minutes : Int} {text rest offset : Bytes}

theorem IsOffset.endsFraction (h : IsOffset minutes offset) : EndsFraction offset := by
  intro b hb
  cases h with
  | universal hletter =>
    obtain rfl := Option.some.inj hb
    rcases hletter with rfl | rfl <;> decide
  | signed hmark =>
    obtain rfl := Option.some.inj hb
    rcases hmark with ⟨rfl, -⟩ | ⟨rfl, -⟩ <;> decide

theorem IsOffset.bounds (h : IsOffset minutes offset) : -1440 < minutes ∧ minutes < 1440 := by
  cases h with
  | universal => decide
  | signed hmark _ hhours _ hminutes =>
    rcases hmark with ⟨-, rfl⟩ | ⟨-, rfl⟩ <;> omega

theorem IsOffset.read (h : IsOffset minutes offset) (rest : Bytes) :
    readOffset (offset ++ rest) = .ok (minutes, rest) := by
  cases h with
  | universal hletter => rcases hletter with rfl | rfl <;> rfl
  | signed hmark hhourDigits hhours hminuteDigits hminutes =>
    rw [List.cons_append, List.append_assoc, List.cons_append]
    rcases hmark with ⟨rfl, rfl⟩ | ⟨rfl, rfl⟩ <;>
      simp only [readOffset, hhourDigits.read, ok_bind, if_neg (Nat.not_lt.2 hhours), readMark_cons,
        hminuteDigits.read, if_neg (Nat.not_lt.2 hminutes)] <;>
      rfl

theorem exists_of_readOffset (h : readOffset text = .ok (minutes, rest)) :
    ∃ offset, IsOffset minutes offset ∧ text = offset ++ rest := by
  unfold readOffset at h
  simp only at h
  split at h
  case h_1 | h_2 =>
    obtain ⟨rfl, rfl⟩ := Prod.mk.inj (Except.ok.inj h)
    exact ⟨[_], .universal (by decide), rfl⟩
  case h_3 | h_4 =>
    obtain ⟨⟨hours, text₁⟩, hhours, h⟩ := exists_of_bind_eq_ok h
    simp only at h
    split at h
    · cases h
    rename_i hhourRange
    obtain ⟨text₂, hcolon, h⟩ := exists_of_bind_eq_ok h
    obtain ⟨⟨past, text₃⟩, hpast, h⟩ := exists_of_bind_eq_ok h
    simp only at h
    split at h
    · cases h
    rename_i hpastRange
    obtain ⟨rfl, rfl⟩ := Prod.mk.inj (Except.ok.inj h)
    obtain ⟨hourDigits, hhourDigits, rfl⟩ := readDigits_eq_ok_iff.1 hhours
    obtain rfl := readMark_eq_ok_iff.1 hcolon
    obtain ⟨minuteDigits, hminuteDigits, rfl⟩ := readDigits_eq_ok_iff.1 hpast
    have htext := (List.append_assoc hourDigits (colon :: minuteDigits) text₃).symm
    refine ⟨_ :: (hourDigits ++ colon :: minuteDigits), ?_, congrArg (List.cons _) htext⟩
    exact .signed (by decide) hhourDigits (by omega) hminuteDigits (by omega)
  case h_5 => cases h

end Offset

/-! ### Fields -/

section Texts

variable {f : Fields} {text : Bytes} {t : ZonedTime}

theorem Shows.read (h : Shows f text) (hmonth : f.month ≠ 0) : readFields text = .ok f := by
  obtain ⟨_, hyear, hmonthDigits, hday, hhour, hminute, hsecond, hfraction, hoffset⟩ := h
  rw [readFields]
  simp only [hyear.read, ok_bind, readMark_cons, hmonthDigits.read, if_neg hmonth, hday.read,
    List.isEmpty_cons, if_neg Bool.false_ne_true, List.drop_one, List.tail_cons, hhour.read,
    hminute.read, hsecond.read, hfraction.read hoffset.endsFraction]
  have hread := hoffset.read []
  rw [List.append_nil] at hread
  rw [hread]
  rfl

theorem shows_of_readFields (h : readFields text = .ok f) : Shows f text ∧ f.month ≠ 0 := by
  obtain ⟨⟨year, text₁⟩, hyear, h⟩ := exists_of_bind_eq_ok h
  obtain ⟨text₂, hdash, h⟩ := exists_of_bind_eq_ok h
  obtain ⟨⟨month, text₃⟩, hmonth, h⟩ := exists_of_bind_eq_ok h
  simp only at h
  split at h
  · cases h
  rename_i hpos
  obtain ⟨text₄, hdash', h⟩ := exists_of_bind_eq_ok h
  obtain ⟨⟨day, text₅⟩, hday, h⟩ := exists_of_bind_eq_ok h
  simp only at h
  split at h
  · cases h
  rename_i hseparator
  obtain ⟨⟨hour, text₆⟩, hhour, h⟩ := exists_of_bind_eq_ok h
  obtain ⟨text₇, hcolon, h⟩ := exists_of_bind_eq_ok h
  obtain ⟨⟨minute, text₈⟩, hminute, h⟩ := exists_of_bind_eq_ok h
  obtain ⟨text₉, hcolon', h⟩ := exists_of_bind_eq_ok h
  obtain ⟨⟨second, text₁₀⟩, hsecond, h⟩ := exists_of_bind_eq_ok h
  obtain ⟨⟨nanos, text₁₁⟩, hnanos, h⟩ := exists_of_bind_eq_ok h
  obtain ⟨⟨offset, text₁₂⟩, hoffset, h⟩ := exists_of_bind_eq_ok h
  simp only at h
  split at h
  · cases h
  rename_i hend
  obtain rfl := Except.ok.inj h
  obtain ⟨yearDigits, hyearDigits, rfl⟩ := readDigits_eq_ok_iff.1 hyear
  obtain rfl := readMark_eq_ok_iff.1 hdash
  obtain ⟨monthDigits, hmonthDigits, rfl⟩ := readDigits_eq_ok_iff.1 hmonth
  obtain rfl := readMark_eq_ok_iff.1 hdash'
  obtain ⟨dayDigits, hdayDigits, rfl⟩ := readDigits_eq_ok_iff.1 hday
  obtain ⟨separator, text₅, rfl⟩ := List.exists_cons_of_ne_nil (by simpa using hseparator)
  obtain ⟨hourDigits, hhourDigits, rfl⟩ := readDigits_eq_ok_iff.1 hhour
  obtain rfl := readMark_eq_ok_iff.1 hcolon
  obtain ⟨minuteDigits, hminuteDigits, rfl⟩ := readDigits_eq_ok_iff.1 hminute
  obtain rfl := readMark_eq_ok_iff.1 hcolon'
  obtain ⟨secondDigits, hsecondDigits, rfl⟩ := readDigits_eq_ok_iff.1 hsecond
  obtain ⟨fraction, hfraction, rfl⟩ := exists_of_readFraction hnanos
  obtain ⟨zone, hzone, rfl⟩ := exists_of_readOffset hoffset
  obtain rfl : text₁₂ = [] := by simpa using hend
  rw [List.append_nil]
  exact ⟨⟨separator, .mk hyearDigits hmonthDigits hdayDigits hhourDigits hminuteDigits
    hsecondDigits hfraction hzone⟩, hpos⟩

/-! ### Ranges -/

namespace Fields

theorem shownSecond_le_iff : f.shownSecond ≤ 59 ↔ f.second ≤ 60 := by
  rw [shownSecond]
  by_cases hleap : f.second = 60
  · simp [isLeapSecond, hleap]
  · simp [isLeapSecond, hleap]
    omega

theorem second_inRange_iff :
    (f.second ≤ 59 ∨ f.second = 60 ∧ f.endsMonth) ↔
      f.shownSecond ≤ 59 ∧ ¬(f.isLeapSecond ∧ !f.endsMonth) := by
  rw [shownSecond_le_iff, isLeapSecond, beq_iff_eq]
  cases f.endsMonth <;> simp <;> omega

theorem flaw?_eq_none_iff (hpos : f.month ≠ 0) : f.flaw? = none ↔ f.InRange := by
  rw [flaw?]
  constructor
  · intro h
    split_ifs at h with hmonth hday hhour hminute hshown hleap
    exact ⟨by omega, by omega, by omega, by omega,
      second_inRange_iff.2 ⟨Nat.le_of_not_lt hshown, hleap⟩⟩
  · rintro ⟨hmonth, hday, hhour, hminute, hsecond⟩
    obtain ⟨hshown, hleap⟩ := second_inRange_iff.1 hsecond
    rw [if_neg (by omega), if_neg (by omega), if_neg (by omega), if_neg (by omega),
      if_neg (by omega), if_neg hleap]

end Fields

/-- The reader takes the texts that show fields in their ranges, for the instant of the fields. -/
theorem parse_eq_ok_iff :
    parse text = .ok t ↔ ∃ f, Shows f text ∧ f.InRange ∧ f.toZonedTime = t := by
  constructor
  · intro h
    obtain ⟨f, hfields, h⟩ := exists_of_bind_eq_ok h
    obtain ⟨hshows, hpos⟩ := shows_of_readFields hfields
    cases hflaw : f.flaw? with
    | some part =>
      rw [hflaw] at h
      cases h
    | none =>
      rw [hflaw] at h
      exact ⟨f, hshows, (Fields.flaw?_eq_none_iff hpos).1 hflaw, Except.ok.inj h⟩
  · rintro ⟨f, hshows, hrange, rfl⟩
    have hpos : f.month ≠ 0 := Nat.ne_of_gt hrange.month.1
    simp only [parse, hshows.read hpos, ok_bind, (Fields.flaw?_eq_none_iff hpos).2 hrange]
    rfl

theorem exists_parse_eq_ok_iff : (∃ t, parse text = .ok t) ↔ IsDateTime text := by
  simp only [parse_eq_ok_iff, IsDateTime]
  constructor
  · rintro ⟨t, f, hshows, hrange, -⟩
    exact ⟨f, hshows, hrange⟩
  · rintro ⟨f, hshows, hrange⟩
    exact ⟨_, f, hshows, hrange, rfl⟩

/-! ### Separators -/

/-- The separator stands behind ten bytes, and any other could stand there as well. -/
theorem showsWith_iff {separator : UInt8} :
    ShowsWith separator f text ↔ ∃ date time, date.length = 10 ∧ text = date ++ separator :: time ∧
      ∀ other, ShowsWith other f (date ++ other :: time) := by
  constructor
  · rintro ⟨hyear, hmonth, hday, hhour, hminute, hsecond, hfraction, hoffset⟩
    rename_i year month day hour minute second fraction offset
    refine ⟨year ++ dash :: (month ++ dash :: day), hour ++ colon :: (minute ++ colon ::
      (second ++ (fraction ++ offset))), ?_, by simp, fun other => ?_⟩
    · simp [hyear.length, hmonth.length, hday.length]
    · have hshows : ShowsWith other f _ :=
        .mk hyear hmonth hday hhour hminute hsecond hfraction hoffset
      simpa using hshows
  · rintro ⟨date, time, -, rfl, hshows⟩
    exact hshows separator

/-- What the reader takes is an RFC 3339 text with any byte in the place of its letter T. -/
theorem isDateTime_iff : IsDateTime text ↔ ∃ date separator time, date.length = 10 ∧
    text = date ++ separator :: time ∧ IsText (date ++ 0x54 :: time) := by
  constructor
  · rintro ⟨f, ⟨separator, hshows⟩, hrange⟩
    obtain ⟨date, time, hlength, rfl, hall⟩ := showsWith_iff.1 hshows
    exact ⟨date, separator, time, hlength, rfl, 0x54, f, .inl rfl, hall 0x54, hrange⟩
  · rintro ⟨date, separator, time, hlength, rfl, letter, f, -, hshows, hrange⟩
    obtain ⟨date', time', hlength', htext, hall⟩ := showsWith_iff.1 hshows
    obtain ⟨rfl, hrest⟩ := List.append_inj htext (hlength.trans hlength'.symm)
    obtain ⟨-, rfl⟩ := List.cons.inj hrest
    exact ⟨f, ⟨separator, hall separator⟩, hrange⟩

theorem IsText.isSeparator {date time : Bytes} {b : UInt8} (h : IsText (date ++ b :: time))
    (hlength : date.length = 10) : IsSeparator b := by
  obtain ⟨separator, f, hseparator, hshows, -⟩ := h
  obtain ⟨date', time', hlength', htext, -⟩ := showsWith_iff.1 hshows
  obtain ⟨-, hrest⟩ := List.append_inj htext (hlength.trans hlength'.symm)
  obtain ⟨rfl, -⟩ := List.cons.inj hrest
  exact hseparator

end Texts

end SeriesQuery.Rfc3339
