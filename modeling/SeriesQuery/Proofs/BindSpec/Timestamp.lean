import SeriesQuery.Proofs.BindSpec.Form
import SeriesQuery.Proofs.Instant.Rfc3339
import SeriesQuery.Proofs.Number.Integer

/-!
# Two spellings of a timestamp

A timestamp is bound as whole milliseconds or as an RFC 3339 text. Both spellings name the same cell,
whichever of its texts shows the instant. The number is tried first, and that cannot take a date for a
number: a date has a dash behind its year, and a number has no dash behind its first character.
-/

namespace SeriesQuery

/-- No text is both a number and a date. -/
theorem Rfc3339.not_parse_of_parse_int64 {text : List Char} {n : Int} {t : ZonedTime}
    (hnumber : IntegerRange.int64.parse text = .ok n) :
    Rfc3339.parse (Utf8.encode text) ≠ .ok t := by
  intro hdate
  obtain ⟨c, rest, rfl, hc, hrest⟩ := IntegerRange.exists_cons_of_parse hnumber
  have hascii : c.toNat < 0x80 := by
    rcases hc with rfl | rfl | hc
    · decide
    · decide
    · have hbounds := isDigit_iff_toNat.1 hc
      omega
  have htail : (Utf8.encode (c :: rest)).tail = Utf8.encode rest := by
    rw [Utf8.encode, List.flatMap_cons, Utf8.encodeChar_ascii hascii]
    rfl
  have hdash := dash_mem_tail_of_parse hdate
  rw [htail] at hdash
  have hdigit := all_isDigitByte_encode hrest dash hdash
  contradiction

namespace BindType

variable {before text after : List Char} {t : ZonedTime}

/-- That the number is tried first never changes what a date means. -/
theorem timestampValue_of_date {raw : List Char}
    (h : Rfc3339.parse (Utf8.encode (trim raw)) = .ok t) :
    timestampValue raw = .ok (.ofZonedTime t) := by
  cases hnumber : IntegerRange.int64.parse (trim raw) with
  | ok n => exact absurd h (Rfc3339.not_parse_of_parse_int64 hnumber)
  | error flaw => simp only [timestampValue, hnumber, h]

theorem timestampValue_written (h : Rfc3339.Written t text) (hbefore : ∀ c ∈ before, isBlank c)
    (hafter : ∀ c ∈ after, isBlank c) :
    timestampValue (before ++ text ++ after) = .ok (.ofZonedTime t) := by
  apply timestampValue_of_date
  rw [h.solid.trim_append h.ne_nil hbefore hafter]
  exact h.parse_eq

theorem timestampValue_toString {n : Int} (hlow : Int64.minValue.toInt ≤ n)
    (hhigh : n ≤ Int64.maxValue.toInt) :
    timestampValue (toString n).toList = .ok (.timestamp (Int64.ofInt n)) := by
  rw [Int64.toInt_minValue] at hlow
  rw [Int64.toInt_maxValue] at hhigh
  have hnumber : IntegerRange.int64.parse (toString n).toList = .ok n :=
    IntegerRange.int64.parse_toString hlow hhigh
  obtain ⟨hsolid, hne⟩ := IntegerRange.solid_of_parse hnumber
  simp only [timestampValue, hsolid.trim_eq hne, hnumber]

end BindType

namespace BindSpec

theorem parse_typed {name : String} (hne : name ≠ "") (hname : '=' ∉ name.toList) (type : BindType)
    (value : List Char) :
    parse (name ++ "=" ++ type.name ++ ":" ++ String.ofList value) =
      match type.cell value with
      | .ok cell => .ok (name, cell)
      | .error e => .error (e.withParameter name) := by
  have hassigns : Assigns (name ++ "=" ++ type.name ++ ":" ++ String.ofList value) name type.name
      (String.ofList value) :=
    ⟨⟨by simp only [String.append_assoc], hname⟩, type.colon_not_mem_name⟩
  have htyped : typedCell type.name.toList (String.ofList value).toList = type.cell value := by
    rw [typedCell_name, String.toList_ofList]
  cases hcell : type.cell value with
  | ok cell => exact hassigns.parse_of_ok hne (htyped.trans hcell)
  | error e => exact hassigns.parse_of_error hne (htyped.trans hcell)

theorem parse_timestamp {name : String} (hne : name ≠ "") (hname : '=' ∉ name.toList)
    {value : List Char} {cell : Cell} (h : BindType.timestampValue value = .ok cell) :
    parse (name ++ "=ts:" ++ String.ofList value) = .ok (name, cell) := by
  have hspec : name ++ "=ts:" = name ++ "=" ++ BindType.ts.name ++ ":" := by
    rw [String.append_assoc, String.append_assoc]
    rfl
  have hcell : BindType.ts.cell value = .ok cell := h
  rw [hspec, parse_typed hne hname, hcell]

end BindSpec

/-- An instant has a text for each offset of less than a day that keeps its year to four digits. Every
text of it and the decimal text of its milliseconds are bound as the same cell. No text is both, so a
date is never taken for a number. -/
theorem timestamp_spellings_agree :
    (∀ (t : ZonedTime) (minutes : Int), t.offset = minutes * 60 → -1440 < minutes → minutes < 1440 →
      0 ≤ t.localDate.year → t.localDate.year ≤ 9999 → ∃ text, Rfc3339.Written t text) ∧
    (∀ (t : ZonedTime) (text before after : List Char), Rfc3339.Written t text →
      (∀ c ∈ before, isBlank c) → (∀ c ∈ after, isBlank c) →
      ∀ name : String, name ≠ "" → '=' ∉ name.toList →
        ∃ millis : Int64, millis.toInt = floorMillis t.nanos ∧
          BindSpec.parse (name ++ "=ts:" ++ String.ofList (before ++ text ++ after)) =
            .ok (name, .timestamp millis) ∧
          BindSpec.parse (name ++ "=ts:" ++ toString (floorMillis t.nanos)) =
            .ok (name, .timestamp millis)) ∧
    (∀ (text : List Char) (n : Int) (t : ZonedTime), IntegerRange.int64.parse text = .ok n →
      Rfc3339.parse (Utf8.encode text) ≠ .ok t) ∧
    ∀ (raw : List Char) (t : ZonedTime), Rfc3339.parse (Utf8.encode (trim raw)) = .ok t →
      BindType.ts.cell raw = .ok (.ofZonedTime t) := by
  refine ⟨?_, ?_, ?_, ?_⟩
  · intro t minutes hoffset hgt hlt hfirst hlast
    exact Rfc3339.exists_written hoffset hgt hlt hfirst hlast
  · intro t text before after h hbefore hafter name hne hname
    have hdate := BindType.timestampValue_written h hbefore hafter
    obtain ⟨hlow, hhigh⟩ := h.inCalendar.floorMillis_bounds
    have hnumber := BindType.timestampValue_toString hlow hhigh
    refine ⟨t.toMillis, h.inCalendar.toInt_toMillis, ?_, ?_⟩
    · exact BindSpec.parse_timestamp hne hname hdate
    · rw [← h.inCalendar.toInt_toMillis] at hnumber ⊢
      rw [Int64.ofInt_toInt] at hnumber
      rw [← String.ofList_toList (s := toString t.toMillis.toInt)]
      exact BindSpec.parse_timestamp hne hname hnumber
  · intro text n t hnumber
    exact Rfc3339.not_parse_of_parse_int64 hnumber
  · intro raw t hdate
    exact BindType.timestampValue_of_date hdate

/-- Half a millisecond before 1970, by a clock that is five and a half hours behind. -/
theorem timestamp_spellings_agree_before_epoch :
    ∃ (t : ZonedTime) (millis : Int64), t.nanos = -500000 ∧ t.offset = -330 * 60 ∧
      (∃ text, Rfc3339.Written t text) ∧ millis.toInt = -1 ∧
      BindSpec.parse ":at=ts: 1969-12-31T18:29:59.9995-05:30\t" = .ok (":at", .timestamp millis) ∧
      BindSpec.parse ":at=ts:-1" = .ok (":at", .timestamp millis) ∧
      Rfc3339.parse (Utf8.encode "-1".toList) ≠ .ok t ∧
      BindType.ts.cell "1969-12-31T18:29:59.9995-05:30".toList = .ok (.ofZonedTime t) := by
  let t : ZonedTime := { nanos := -500000, offset := -19800 }
  have hfraction : Rfc3339.WrittenFraction (t.localNanos % 1000000000).toNat
      ['.', '9', '9', '9', '5'] := by
    convert Rfc3339.WrittenFraction.digits _ _ _ using 1
    · decide
    · decide
    · decide
    · simp [isDigit]
  have hzone : Rfc3339.WrittenOffset (-330) ['-', '0', '5', ':', '3', '0'] :=
    @Rfc3339.WrittenOffset.behind 5 30 (by decide) (by decide)
  have hwritten : Rfc3339.Written t "1969-12-31T18:29:59.9995-05:30".toList := by
    convert Rfc3339.Written.mk (by decide) (by decide) hfraction hzone rfl using 1
    decide
  have hmillis : floorMillis t.nanos = -1 := floorMillis_eq _
  obtain ⟨hexists, hagree, hexclusive, hdates⟩ := timestamp_spellings_agree
  obtain ⟨millis, hvalue, hdate, hnumber⟩ := hagree t _ [' '] ['\t'] hwritten
    (by simp [isBlank]) (by simp [isBlank]) ":at" (by decide) (by decide)
  rw [hmillis] at hvalue hnumber
  refine ⟨t, millis, rfl, rfl, ?_, hvalue, hdate, hnumber, ?_, ?_⟩
  · exact hexists t (-330) rfl (by decide) (by decide) (by decide) (by decide)
  · exact hexclusive _ (-1) t rfl
  · apply hdates
    rw [hwritten.solid.trim_eq hwritten.ne_nil]
    exact hwritten.parse_eq

end SeriesQuery
