import SeriesQuery.Proofs.Instant.Floor
import SeriesQuery.Proofs.Instant.Grammar
import SeriesQuery.Proofs.Json.Lexical
import SeriesQuery.Proofs.Number.Digits
import SeriesQuery.Proofs.Text.Span
import SeriesQuery.Proofs.Text.Utf8

/-!
# Every RFC 3339 text of an instant is read as the instant

A clock with an offset of whole minutes shows an instant as a date and a time of day. Its text
writes the year with four digits and every other field with two. Then comes a fraction of a second,
which may be left out or have zeros at its end as long as it is exact, and the offset, which has a
letter of its own at universal time. Reading any of these texts gives the fields that were written,
and the fields give the instant back, since the date has the day number that it was made from.
-/

namespace SeriesQuery.Rfc3339

/-- The decimal digits of a number with zeros in front, up to a width. -/
def padded (width n : Nat) : List Char :=
  (Nat.toDigits 10 n).leftpad width '0'

def writtenDate (d : Calendar.Date) : List Char :=
  padded 4 d.year.toNat ++ '-' :: padded 2 d.month ++ '-' :: padded 2 d.day

/-- The hours, minutes and seconds of a second of the day. -/
def writtenTime (second : Nat) : List Char :=
  padded 2 (second / 3600) ++ ':' :: padded 2 (second / 60 % 60) ++ ':' :: padded 2 (second % 60)

/-- A fraction of a second, with no digit or as many as it takes to denote it exactly. -/
inductive WrittenFraction : Nat → List Char → Prop where
  | none : WrittenFraction 0 []
  | digits {digits : List Char} : digits ≠ [] → digits.length ≤ 9 → (∀ c ∈ digits, isDigit c) →
      WrittenFraction (Nat.ofDigitChars 10 digits 0 * 10 ^ (9 - digits.length)) ('.' :: digits)

/-- An offset in minutes. -/
inductive WrittenOffset : Int → List Char → Prop where
  | universal : WrittenOffset 0 ['Z']
  | ahead {hours minutes : Nat} : hours < 24 → minutes < 60 →
      WrittenOffset (hours * 60 + minutes : Nat) ('+' :: padded 2 hours ++ ':' :: padded 2 minutes)
  | behind {hours minutes : Nat} : hours < 24 → minutes < 60 →
      WrittenOffset (-(hours * 60 + minutes : Nat))
        ('-' :: padded 2 hours ++ ':' :: padded 2 minutes)

/-- The text shows the instant by a clock with the offset, in a year of four digits. -/
inductive Written (t : ZonedTime) : List Char → Prop where
  | mk {minutes : Int} {fraction zone : List Char} :
      0 ≤ t.localDate.year → t.localDate.year ≤ 9999 →
      WrittenFraction (t.localNanos % 1000000000).toNat fraction →
      WrittenOffset minutes zone → t.offset = minutes * 60 →
      Written t (writtenDate t.localDate ++
        'T' :: writtenTime (t.localNanos % 86400000000000 / 1000000000).toNat ++ fraction ++ zone)

/-! ### Digits -/

theorem toNat_ofNat_digit {c : Char} (h : isDigit c) : (UInt8.ofNat c.toNat).toNat = c.toNat := by
  have hbounds := isDigit_iff_toNat.1 h
  exact UInt8.toNat_ofNat_of_lt' (show c.toNat < 0x100 by omega)

theorem isDigitByte_of_isDigit {c : Char} (h : isDigit c) : isDigitByte (UInt8.ofNat c.toNat) := by
  have hbounds := isDigit_iff_toNat.1 h
  simp only [isDigitByte, Bool.and_eq_true, decide_eq_true_eq, UInt8.le_iff_toNat_le,
    toNat_ofNat_digit h]
  exact hbounds

theorem encode_digits {digits : List Char} (h : ∀ c ∈ digits, isDigit c) :
    Utf8.encode digits = digits.map fun c => UInt8.ofNat c.toNat :=
  Utf8.encode_ascii fun c hc => by
    have hbounds := isDigit_iff_toNat.1 (h c hc)
    omega

theorem foldl_digitBytes {digits : List Char} (h : ∀ c ∈ digits, isDigit c) (value : Nat) :
    (digits.map fun c => UInt8.ofNat c.toNat).foldl (fun n b => n * 10 + (b.toNat - 0x30)) value =
      Nat.ofDigitChars 10 digits value := by
  induction digits generalizing value with
  | nil => rfl
  | cons c rest ih =>
    rw [List.map_cons, List.foldl_cons, toNat_ofNat_digit (h c List.mem_cons_self),
      ih (fun d hd => h d (List.mem_cons_of_mem c hd)), Nat.ofDigitChars_cons, Nat.mul_comm 10]
    rfl

theorem digitsNumber_encode {digits : List Char} (h : ∀ c ∈ digits, isDigit c) :
    digitsNumber (Utf8.encode digits) = Nat.ofDigitChars 10 digits 0 := by
  rw [encode_digits h, digitsNumber, foldl_digitBytes h]

theorem all_isDigitByte_encode {digits : List Char} (h : ∀ c ∈ digits, isDigit c) :
    ∀ b ∈ Utf8.encode digits, isDigitByte b := by
  rw [encode_digits h]
  intro b hb
  obtain ⟨c, hc, rfl⟩ := List.mem_map.1 hb
  exact isDigitByte_of_isDigit (h c hc)

theorem length_encode_digits {digits : List Char} (h : ∀ c ∈ digits, isDigit c) :
    (Utf8.encode digits).length = digits.length := by
  rw [encode_digits h, List.length_map]

theorem isDigit_padded (width n : Nat) : ∀ c ∈ padded width n, isDigit c := by
  intro c hc
  rcases List.mem_append.1 hc with hc | hc
  · rw [List.eq_of_mem_replicate hc]
    rfl
  · exact isDigit_of_mem_toDigits hc

theorem length_padded {width n : Nat} (hwidth : 0 < width) (hn : n < 10 ^ width) :
    (padded width n).length = width := by
  have hlength := (Nat.length_toDigits_le_iff (b := 10) (by decide) hwidth).2 hn
  rw [padded, List.length_leftpad, Nat.max_eq_left hlength]

theorem ofDigitChars_padded (width n : Nat) : Nat.ofDigitChars 10 (padded width n) 0 = n := by
  rw [padded, List.leftpad, Nat.ofDigitChars_append, Nat.ofDigitChars_replicate_zero, Nat.mul_zero,
    Nat.ofDigitChars_ten_toDigits]

/-! ### Fields -/

theorem encode_dash (text : List Char) : Utf8.encode ('-' :: text) = dash :: Utf8.encode text := rfl

theorem encode_colon (text : List Char) : Utf8.encode (':' :: text) = colon :: Utf8.encode text :=
  rfl

theorem isNumber_padded {width n : Nat} (hwidth : 0 < width) (hn : n < 10 ^ width) :
    IsNumber width n (Utf8.encode (padded width n)) where
  length := by rw [length_encode_digits (isDigit_padded width n), length_padded hwidth hn]
  digit := all_isDigitByte_encode (isDigit_padded width n)
  number := by rw [digitsNumber_encode (isDigit_padded width n), ofDigitChars_padded]

theorem isNumber_padded_two {n : Nat} (hn : n < 100) : IsNumber 2 n (Utf8.encode (padded 2 n)) :=
  isNumber_padded (by decide) hn

theorem WrittenFraction.isFraction {nanos : Nat} {fraction : List Char}
    (h : WrittenFraction nanos fraction) : IsFraction nanos (Utf8.encode fraction) := by
  cases h with
  | none => exact .none
  | @digits digits hne hlength hdigits =>
    have hcounted : (Utf8.encode digits).take 9 = Utf8.encode digits :=
      List.take_of_length_le (by rwa [length_encode_digits hdigits])
    have hnanos : fractionNanos (Utf8.encode digits) =
        Nat.ofDigitChars 10 digits 0 * 10 ^ (9 - digits.length) := by
      rw [fractionNanos, hcounted, digitsNumber_encode hdigits, length_encode_digits hdigits]
    have hnonempty : Utf8.encode digits ≠ [] := by
      rw [encode_digits hdigits]
      simpa using hne
    rw [← hnanos]
    exact .digits hnonempty (all_isDigitByte_encode hdigits)

theorem isOffset_signed {mark : UInt8} {sign : Int}
    (hsign : mark = 0x2B ∧ sign = 1 ∨ mark = 0x2D ∧ sign = -1) {hours minutes : Nat}
    (hhours : hours < 24) (hminutes : minutes < 60) :
    IsOffset (sign * (hours * 60 + minutes : Nat))
      (mark :: Utf8.encode (padded 2 hours ++ ':' :: padded 2 minutes)) := by
  rw [Utf8.encode_append, encode_colon]
  exact .signed hsign (isNumber_padded_two (by omega)) (by omega) (isNumber_padded_two (by omega))
    (by omega)

theorem WrittenOffset.isOffset {minutes : Int} {zone : List Char} (h : WrittenOffset minutes zone) :
    IsOffset minutes (Utf8.encode zone) := by
  cases h with
  | universal => exact .universal (.inl rfl)
  | ahead hhours hminutes =>
    rw [← Int.one_mul (Nat.cast _)]
    exact isOffset_signed (.inl ⟨rfl, rfl⟩) hhours hminutes
  | behind hhours hminutes =>
    rw [← Int.neg_one_mul]
    exact isOffset_signed (.inr ⟨rfl, rfl⟩) hhours hminutes

/-- The fields of a date with a second of the day, the nanoseconds after it and an offset. -/
def shownFields (d : Calendar.Date) (second nanos : Nat) (minutes : Int) : Fields where
  year := d.year.toNat
  month := d.month
  day := d.day
  hour := second / 3600
  minute := second / 60 % 60
  second := second % 60
  nanos
  offsetMinutes := minutes

theorem encode_writtenDate (d : Calendar.Date) (rest : Bytes) :
    Utf8.encode (writtenDate d) ++ rest =
      Utf8.encode (padded 4 d.year.toNat) ++ dash :: (Utf8.encode (padded 2 d.month) ++
        dash :: (Utf8.encode (padded 2 d.day) ++ rest)) := by
  simp only [writtenDate, Utf8.encode_append, encode_dash, List.append_assoc, List.cons_append]

theorem encode_writtenTime (second : Nat) (rest : Bytes) :
    Utf8.encode (writtenTime second) ++ rest =
      Utf8.encode (padded 2 (second / 3600)) ++ colon ::
        (Utf8.encode (padded 2 (second / 60 % 60)) ++ colon ::
          (Utf8.encode (padded 2 (second % 60)) ++ rest)) := by
  simp only [writtenTime, Utf8.encode_append, encode_colon, List.append_assoc, List.cons_append]

theorem shows_written {d : Calendar.Date} {second nanos : Nat} {minutes : Int}
    {fraction zone : List Char} (hlast : d.year ≤ 9999) (hsecond : second < 86400)
    (hfraction : WrittenFraction nanos fraction) (hzone : WrittenOffset minutes zone) :
    Shows (shownFields d second nanos minutes) (Utf8.encode
      (writtenDate d ++ 'T' :: writtenTime second ++ fraction ++ zone)) := by
  have hmonth := d.month_le
  have hday := Nat.le_trans d.day_le (Calendar.daysInMonth_bounds d.year d.month).2
  have hbytes : Utf8.encode (writtenDate d ++ 'T' :: writtenTime second ++ fraction ++ zone) =
      Utf8.encode (writtenDate d) ++ 0x54 :: (Utf8.encode (writtenTime second) ++
        (Utf8.encode fraction ++ Utf8.encode zone)) := by
    have hmark (text : List Char) : Utf8.encode ('T' :: text) = 0x54 :: Utf8.encode text := rfl
    simp only [Utf8.encode_append, hmark, List.append_assoc, List.cons_append]
  rw [hbytes, encode_writtenDate, encode_writtenTime]
  exact ⟨_, .mk (isNumber_padded (by decide) (show d.year.toNat < 10 ^ 4 by omega))
    (isNumber_padded_two (show d.month < 100 by omega))
    (isNumber_padded_two (show d.day < 100 by omega))
    (isNumber_padded_two (show second / 3600 < 100 by omega))
    (isNumber_padded_two (show second / 60 % 60 < 100 by omega))
    (isNumber_padded_two (show second % 60 < 100 by omega)) hfraction.isFraction hzone.isOffset⟩

/-! ### The instant of the fields -/

namespace Fields

variable {f : Fields}

theorem isLeapSecond_of_lt (h : f.second < 60) : f.isLeapSecond = false :=
  beq_false_of_ne (Nat.ne_of_lt h)

theorem shownSecond_of_lt (h : f.second < 60) : f.shownSecond = f.second := by
  rw [shownSecond, isLeapSecond_of_lt h, if_neg Bool.false_ne_true]

theorem shownNanos_of_lt (h : f.second < 60) : f.shownNanos = f.nanos := by
  rw [shownNanos, isLeapSecond_of_lt h, if_neg Bool.false_ne_true]

end Fields

theorem inRange_shownFields {d : Calendar.Date} {second : Nat} (hfirst : 0 ≤ d.year)
    (hsecond : second < 86400) (nanos : Nat) (minutes : Int) :
    (shownFields d second nanos minutes).InRange where
  month := ⟨d.month_pos, d.month_le⟩
  day := by
    have hyear : (d.year.toNat : Int) = d.year := Int.toNat_of_nonneg hfirst
    refine ⟨d.day_pos, ?_⟩
    rw [shownFields, hyear]
    exact d.day_le
  hour := show second / 3600 ≤ 23 by omega
  minute := show second / 60 % 60 ≤ 59 by omega
  second := .inl (show second % 60 ≤ 59 by omega)

/-- Putting the fields of the local time together again takes the offset off. -/
theorem toZonedTime_shownFields {t : ZonedTime} {minutes : Int} (hfirst : 0 ≤ t.localDate.year)
    (hoffset : t.offset = minutes * 60) :
    (shownFields t.localDate (t.localNanos % 86400000000000 / 1000000000).toNat
      (t.localNanos % 1000000000).toNat minutes).toZonedTime = t := by
  have hday : Calendar.dayNumber t.localDate.year.toNat t.localDate.month t.localDate.day =
      t.localNanos / 86400000000000 := by
    rw [Int.toNat_of_nonneg hfirst]
    exact Calendar.Date.number_ofDay _
  have hlocal : t.localNanos = t.nanos + minutes * 60 * 1000000000 := by
    rw [ZonedTime.localNanos, hoffset]
  generalize hsecond : (t.localNanos % 86400000000000 / 1000000000).toNat = second
  have hshown : second % 60 < 60 := by omega
  rw [Fields.toZonedTime, Fields.epochSeconds, Fields.secondsOfDay, Fields.shownSecond_of_lt hshown,
    Fields.shownNanos_of_lt hshown]
  obtain ⟨nanos, offset⟩ := t
  rw [ZonedTime.mk.injEq]
  refine ⟨?_, hoffset.symm⟩
  dsimp only [shownFields] at hday hlocal hsecond ⊢
  rw [hday]
  omega

/-! ### Written texts -/

@[simp] theorem solid_padded (width n : Nat) : Solid (padded width n) :=
  solid_digits (isDigit_padded width n)

theorem solid_writtenDate (d : Calendar.Date) : Solid (writtenDate d) := by
  simp [writtenDate, isBlank]

theorem solid_writtenTime (second : Nat) : Solid (writtenTime second) := by
  simp [writtenTime, isBlank]

theorem WrittenFraction.solid {nanos : Nat} {fraction : List Char}
    (h : WrittenFraction nanos fraction) : Solid fraction := by
  cases h with
  | none => exact solid_nil
  | digits _ _ hdigits => exact solid_cons.2 ⟨rfl, solid_digits hdigits⟩

theorem WrittenOffset.solid {minutes : Int} {zone : List Char} (h : WrittenOffset minutes zone) :
    Solid zone := by
  cases h <;> simp [isBlank]

namespace Written

variable {t : ZonedTime} {text : List Char}

theorem parse_eq (h : Written t text) : parse (Utf8.encode text) = .ok t := by
  obtain @⟨minutes, fraction, zone, hfirst, hlast, hfraction, hzone, hoffset⟩ := h
  have hsecond : (t.localNanos % 86400000000000 / 1000000000).toNat < 86400 := by omega
  exact parse_eq_ok_iff.2 ⟨_, shows_written hlast hsecond hfraction hzone,
    inRange_shownFields hfirst hsecond _ _, toZonedTime_shownFields hfirst hoffset⟩

theorem ne_nil (h : Written t text) : text ≠ [] := by
  obtain ⟨-, -, -, -, -⟩ := h
  simp

theorem solid (h : Written t text) : Solid text := by
  obtain ⟨-, -, hfraction, hzone, -⟩ := h
  simp only [solid_append, solid_cons]
  exact ⟨⟨⟨solid_writtenDate _, rfl, solid_writtenTime _⟩, hfraction.solid⟩, hzone.solid⟩

theorem inCalendar (h : Written t text) : t.InCalendar := by
  obtain ⟨hfirst, hlast, -, hzone, hoffset⟩ := h
  obtain ⟨hgt, hlt⟩ := hzone.isOffset.bounds
  refine ⟨?_, hlast, ?_, ?_⟩ <;> omega

end Written

theorem exists_writtenOffset {minutes : Int} (hgt : -1440 < minutes) (hlt : minutes < 1440) :
    ∃ zone, WrittenOffset minutes zone := by
  obtain ⟨count, hcount⟩ := minutes.eq_nat_or_neg
  have hhours : count / 60 < 24 := by omega
  have hminutes : count % 60 < 60 := by omega
  rw [← Nat.div_add_mod' count 60] at hcount
  rcases hcount with rfl | rfl
  · exact ⟨_, .ahead hhours hminutes⟩
  · exact ⟨_, .behind hhours hminutes⟩

theorem exists_writtenFraction {nanos : Nat} (h : nanos < 1000000000) :
    ∃ fraction, WrittenFraction nanos fraction := by
  have hlength : (padded 9 nanos).length = 9 := length_padded (by decide) h
  refine ⟨'.' :: padded 9 nanos, ?_⟩
  convert WrittenFraction.digits (List.ne_nil_of_length_pos (by omega)) (by omega)
    (isDigit_padded 9 nanos) using 1
  rw [ofDigitChars_padded, hlength]
  omega

/-- An instant has a text for each offset of less than a day that keeps the year to four digits. -/
theorem exists_written {t : ZonedTime} {minutes : Int} (hoffset : t.offset = minutes * 60)
    (hgt : -1440 < minutes) (hlt : minutes < 1440) (hfirst : 0 ≤ t.localDate.year)
    (hlast : t.localDate.year ≤ 9999) : ∃ text, Written t text := by
  obtain ⟨zone, hzone⟩ := exists_writtenOffset hgt hlt
  have hnanos : (t.localNanos % 1000000000).toNat < 1000000000 := by omega
  obtain ⟨fraction, hfraction⟩ := exists_writtenFraction hnanos
  exact ⟨_, .mk hfirst hlast hfraction hzone hoffset⟩

/-! ### What a text must contain -/

/-- A date has a dash after its year, which is not the first byte. -/
theorem dash_mem_tail_of_parse {bytes : Bytes} {t : ZonedTime} (h : parse bytes = .ok t) :
    dash ∈ bytes.tail := by
  obtain ⟨f, ⟨separator, @⟨year, month, day, hour, minute, second, fraction, offset, hyear⟩⟩, -⟩ :=
    parse_eq_ok_iff.1 h
  obtain ⟨b, rest, rfl⟩ := List.exists_cons_of_length_pos (show 0 < year.length by
    rw [hyear.length]
    decide)
  rw [List.cons_append, List.tail_cons]
  exact List.mem_append_right rest List.mem_cons_self

/-! ### The range of what is read -/

theorem foldl_digitBytes_lt {digits : Bytes} (h : ∀ b ∈ digits, isDigitByte b) (value : Nat) :
    digits.foldl (fun n b => n * 10 + (b.toNat - 0x30)) value < (value + 1) * 10 ^ digits.length := by
  induction digits generalizing value with
  | nil => simp
  | cons b rest ih =>
    obtain ⟨hb, hrest⟩ := List.forall_mem_cons.1 h
    have hdigit : b.toNat ≤ 0x39 := by
      rw [isDigitByte, Bool.and_eq_true, decide_eq_true_eq, decide_eq_true_eq] at hb
      exact hb.2
    rw [List.foldl_cons, List.length_cons, Nat.pow_succ', ← Nat.mul_assoc]
    exact Nat.lt_of_lt_of_le (ih hrest _) (Nat.mul_le_mul_right _ (by omega))

theorem digitsNumber_lt {digits : Bytes} (h : ∀ b ∈ digits, isDigitByte b) :
    digitsNumber digits < 10 ^ digits.length := by
  have hlt := foldl_digitBytes_lt h 0
  rwa [Nat.zero_add, Nat.one_mul] at hlt

theorem IsNumber.lt {width n : Nat} {digits : Bytes} (h : IsNumber width n digits) :
    n < 10 ^ width := by
  rw [← h.number, ← h.length]
  exact digitsNumber_lt h.digit

theorem fractionNanos_lt {digits : Bytes} (h : ∀ b ∈ digits, isDigitByte b) :
    fractionNanos digits < 10 ^ 9 := by
  have hlt := digitsNumber_lt fun b (hb : b ∈ digits.take 9) => h b (List.mem_of_mem_take hb)
  have hlength : (digits.take 9).length ≤ 9 := List.length_take_le _ _
  calc fractionNanos digits
      < 10 ^ (digits.take 9).length * 10 ^ (9 - (digits.take 9).length) :=
        Nat.mul_lt_mul_of_pos_right hlt (Nat.pow_pos (by decide))
    _ = 10 ^ 9 := by rw [← Nat.pow_add, Nat.add_sub_cancel' hlength]

theorem IsFraction.lt {nanos : Nat} {fraction : Bytes} (h : IsFraction nanos fraction) :
    nanos < 10 ^ 9 := by
  cases h with
  | none => decide
  | digits _ hdigits => exact fractionNanos_lt hdigits

theorem Shows.bounds {f : Fields} {text : Bytes} (h : Shows f text) :
    f.year < 10 ^ 4 ∧ f.nanos < 10 ^ 9 ∧ -1440 < f.offsetMinutes ∧ f.offsetMinutes < 1440 := by
  obtain ⟨_, hyear, -, -, -, -, -, hfraction, hoffset⟩ := h
  exact ⟨hyear.lt, hfraction.lt, hoffset.bounds⟩

/-- Every text that is read lies within the timestamps, whose milliseconds are then the floor. -/
theorem toInt_toMillis_of_parse {bytes : Bytes} {t : ZonedTime} (h : parse bytes = .ok t) :
    t.toMillis.toInt = floorMillis t.nanos := by
  obtain ⟨f, hshows, hrange, rfl⟩ := parse_eq_ok_iff.1 h
  obtain ⟨hyear, hnanos, hgt, hlt⟩ := hshows.bounds
  obtain ⟨⟨hmonthPos, hmonth⟩, ⟨-, hday⟩, hhour, hminute, hsecond⟩ := hrange
  have hshownSecond := (Fields.second_inRange_iff.1 hsecond).1
  have hdays := (Calendar.daysInMonth_bounds f.year f.month).2
  have hbefore := Calendar.daysBeforeMonth_le f.year hmonthPos
  have hshown : f.shownNanos < 10 ^ 9 := by
    rw [Fields.shownNanos]
    split <;> omega
  have hwithin : -2 ^ 63 ≤ f.toZonedTime.nanos / 1000000 ∧ f.toZonedTime.nanos / 1000000 < 2 ^ 63 := by
    simp only [Fields.toZonedTime, Fields.epochSeconds, Fields.secondsOfDay, Calendar.dayNumber,
      Calendar.firstDayOfMonth, Calendar.firstDayOfYear]
    omega
  have hmillis : f.toZonedTime.toMillis = Int64.ofInt (f.toZonedTime.nanos / 1000000) := rfl
  rw [floorMillis_eq, hmillis, Int64.toInt_ofInt_of_le hwithin.1 hwithin.2]

end SeriesQuery.Rfc3339
