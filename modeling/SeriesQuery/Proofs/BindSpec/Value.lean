import SeriesQuery.Proofs.BindSpec.Timestamp
import SeriesQuery.Proofs.Bytes.Pairs

/-!
# Values of bind specs

What each type accepts, and the value that it takes it for. White space around a value is taken off,
except for text, which is kept as it is.
-/

namespace SeriesQuery.BindType

variable {value : List Char}

theorem integerValue_eq_ok_iff {range : IntegerRange} {description : String} {n : Int} :
    integerValue range description value = .ok n ↔ range.parse (trim value) = .ok n := by
  rw [integerValue]
  cases range.parse (trim value) with
  | ok n => simp
  | error flaw => simp

theorem floatValue_eq_ok_iff {description : String} {literal : FloatLiteral} :
    floatValue description value = .ok literal ↔ FloatLiteral.parse (trim value) = .ok literal := by
  rw [floatValue]
  cases FloatLiteral.parse (trim value) with
  | ok n => simp
  | error flaw => simp

theorem boolValue_eq_ok_iff {b : Bool} : boolValue value = .ok b ↔ trim value = Json.boolWord b := by
  have hne : "true".toList ≠ "false".toList := by decide
  rw [boolValue]
  split
  · rename_i htrue
    cases b <;> simp [htrue, Json.boolWord]
  split
  · rename_i hfalse
    cases b <;> simp [hfalse, Json.boolWord]
  · rename_i htrue hfalse
    cases b
    · simpa [Json.boolWord] using hfalse
    · simpa [Json.boolWord] using htrue

theorem not_hexDigits_mark {digits : List Char} {bytes : Bytes} :
    ('0' :: 'x' :: digits).map Char.toLower ≠ bytes.hexDigits := by
  intro h
  have hmem : Char.toLower 'x' ∈ bytes.hexDigits := by
    rw [← h]
    simp
  obtain ⟨n, hn, hx⟩ := Bytes.exists_of_mem_hexDigits hmem
  have hall : ∀ n < 16, Char.toLower 'x' ≠ hexDigit n := by decide
  exact hall n hn hx

theorem withoutMark_of_unmarked {text : List Char} (h : ∀ digits, text ≠ '0' :: 'x' :: digits) :
    withoutMark text = text := by
  unfold withoutMark
  split
  · exact absurd rfl (h _)
  · rfl

/-- The pairs are read as the bytes that the digits denote, and as none where they denote none. -/
theorem hexBytes_eq_ok_iff_digits {bytes : Bytes} :
    hexBytes value = .ok bytes ↔ Bytes.ofHexDigits? (withoutMark (trim value)) = some bytes := by
  simp only [hexBytes]
  split
  · rename_i hjudged
    obtain ⟨found, hfound, hread⟩ := Bytes.exists_readPairs hjudged
    rw [hread, hfound, Except.ok.injEq, Option.some.injEq]
  · rename_i hjudged
    refine iff_of_false (by simp) ?_
    intro hbytes
    exact hjudged (Bytes.isPairsOfDigits_iff.2 (Bytes.exists_ofHexDigits?_iff.1 ⟨bytes, hbytes⟩))

theorem hexBytes_of_marked {digits : List Char} {bytes : Bytes}
    (h : trim value = '0' :: 'x' :: digits) :
    hexBytes value = .ok bytes ↔ digits.map Char.toLower = bytes.hexDigits := by
  rw [← Bytes.ofHexDigits?_eq_some_iff, hexBytes_eq_ok_iff_digits, h]
  rfl

theorem hexBytes_of_unmarked {bytes : Bytes} (h : ∀ digits, trim value ≠ '0' :: 'x' :: digits) :
    hexBytes value = .ok bytes ↔ (trim value).map Char.toLower = bytes.hexDigits := by
  rw [← Bytes.ofHexDigits?_eq_some_iff, hexBytes_eq_ok_iff_digits, withoutMark_of_unmarked h]

/-- The digits behind the mark `0x`, which may be left out. -/
theorem hexBytes_eq_ok_iff {bytes : Bytes} :
    hexBytes value = .ok bytes ↔ ∃ digits, digits.map Char.toLower = bytes.hexDigits ∧
      (trim value = digits ∨ trim value = '0' :: 'x' :: digits) := by
  by_cases hmark : ∃ digits, trim value = '0' :: 'x' :: digits
  · obtain ⟨rest, hmark⟩ := hmark
    rw [hexBytes_of_marked hmark, hmark]
    constructor
    · exact fun h => ⟨rest, h, .inr rfl⟩
    · rintro ⟨digits, hdigits, rfl | hrest⟩
      · exact absurd hdigits not_hexDigits_mark
      · obtain rfl : rest = digits := by simpa using hrest
        exact hdigits
  · rw [not_exists] at hmark
    rw [hexBytes_of_unmarked hmark]
    constructor
    · exact fun h => ⟨_, h, .inl rfl⟩
    · rintro ⟨digits, hdigits, rfl | hrest⟩
      · exact hdigits
      · exact absurd hrest (hmark digits)

/-- A number of milliseconds or a date, never both. -/
theorem timestampValue_eq_ok_iff {c : Cell} :
    timestampValue value = .ok c ↔
      (∃ millis : Int64, WritesInteger (trim value) millis.toInt ∧ .timestamp millis = c) ∨
      ∃ t, Rfc3339.parse (Utf8.encode (trim value)) = .ok t ∧ .ofZonedTime t = c := by
  constructor
  · intro h
    rw [timestampValue] at h
    split at h
    · rename_i n hnumber
      obtain ⟨millis, rfl, hwritten⟩ := IntegerRange.parse_int64_eq_ok_iff.1 hnumber
      rw [Int64.ofInt_toInt] at h
      exact .inl ⟨millis, hwritten, Except.ok.inj h⟩
    split at h
    · rename_i t hdate
      exact .inr ⟨t, hdate, Except.ok.inj h⟩
    · cases h
  · rintro (⟨millis, hwritten, rfl⟩ | ⟨t, hdate, rfl⟩)
    · have hnumber := IntegerRange.parse_int64_eq_ok_iff.2 ⟨millis, rfl, hwritten⟩
      simp only [timestampValue, hnumber, Int64.ofInt_toInt]
    · exact timestampValue_of_date hdate

/-- The cell that a value denotes under each type. -/
inductive Denotes : BindType → List Char → Cell → Prop where
  | str (value : List Char) : Denotes str value (.ofText (String.ofList value))
  | int {value : List Char} {i : Int32} :
      WritesInteger (trim value) i.toInt → Denotes int value (.ofInt32 i)
  | long {value : List Char} {v : Int64} :
      WritesInteger (trim value) v.toInt → Denotes long value (.integer v)
  | float {value : List Char} {literal : FloatLiteral} :
      FloatLiteral.parse (trim value) = .ok literal → Denotes float value (.ofSingle literal.toSingle)
  | double {value : List Char} {literal : FloatLiteral} :
      FloatLiteral.parse (trim value) = .ok literal →
      Denotes double value (.ofDouble literal.toDouble)
  | bool {value : List Char} {b : Bool} :
      trim value = Json.boolWord b → Denotes bool value (.boolean b)
  | millis {value : List Char} {millis : Int64} :
      WritesInteger (trim value) millis.toInt → Denotes ts value (.timestamp millis)
  | date {value : List Char} {t : ZonedTime} :
      Rfc3339.parse (Utf8.encode (trim value)) = .ok t → Denotes ts value (.ofZonedTime t)
  | raw {value digits : List Char} {bytes : Bytes} :
      digits.map Char.toLower = bytes.hexDigits →
      trim value = digits ∨ trim value = '0' :: 'x' :: digits → Denotes raw value (.numeric bytes)
  | null (value : List Char) : Denotes null value .null

theorem denotes_of_cell {type : BindType} {c : Cell}
    (h : type.cell value = .ok c) : Denotes type value c := by
  cases type with
  | str =>
    obtain rfl := Except.ok.inj h
    exact .str value
  | int =>
    obtain ⟨n, hn, rfl⟩ := exists_of_map_eq_ok h
    obtain ⟨i, rfl, hwritten⟩ :=
      IntegerRange.parse_int32_eq_ok_iff.1 (integerValue_eq_ok_iff.1 hn)
    rw [Int32.ofInt_toInt]
    exact .int hwritten
  | long =>
    obtain ⟨n, hn, rfl⟩ := exists_of_map_eq_ok h
    obtain ⟨v, rfl, hwritten⟩ :=
      IntegerRange.parse_int64_eq_ok_iff.1 (integerValue_eq_ok_iff.1 hn)
    rw [Int64.ofInt_toInt]
    exact .long hwritten
  | float =>
    obtain ⟨literal, hliteral, rfl⟩ := exists_of_map_eq_ok h
    exact .float (floatValue_eq_ok_iff.1 hliteral)
  | double =>
    obtain ⟨literal, hliteral, rfl⟩ := exists_of_map_eq_ok h
    exact .double (floatValue_eq_ok_iff.1 hliteral)
  | bool =>
    obtain ⟨b, hb, rfl⟩ := exists_of_map_eq_ok h
    exact .bool (boolValue_eq_ok_iff.1 hb)
  | ts =>
    rcases timestampValue_eq_ok_iff.1 h with ⟨millis, hwritten, rfl⟩ | ⟨t, ht, rfl⟩
    · exact .millis hwritten
    · exact .date ht
  | raw =>
    obtain ⟨bytes, hbytes, rfl⟩ := exists_of_map_eq_ok h
    obtain ⟨digits, hdigits, htrim⟩ := hexBytes_eq_ok_iff.1 hbytes
    exact .raw hdigits htrim
  | null =>
    obtain rfl := Except.ok.inj h
    exact .null value

theorem cell_of_denotes {type : BindType} {c : Cell}
    (h : Denotes type value c) : type.cell value = .ok c := by
  cases h with
  | str | null => rfl
  | @int _ i hwritten =>
    have hparse := IntegerRange.parse_int32_eq_ok_iff.2 ⟨i, rfl, hwritten⟩
    rw [cell, integerValue_eq_ok_iff.2 hparse, Except.map_ok, Int32.ofInt_toInt]
  | @long _ v hwritten =>
    have hparse := IntegerRange.parse_int64_eq_ok_iff.2 ⟨v, rfl, hwritten⟩
    rw [cell, integerValue_eq_ok_iff.2 hparse, Except.map_ok, Int64.ofInt_toInt]
  | float hliteral | double hliteral => rw [cell, floatValue_eq_ok_iff.2 hliteral, Except.map_ok]
  | bool hb => rw [cell, boolValue_eq_ok_iff.2 hb, Except.map_ok]
  | millis hwritten => exact timestampValue_eq_ok_iff.2 (.inl ⟨_, hwritten, rfl⟩)
  | date ht => exact timestampValue_eq_ok_iff.2 (.inr ⟨_, ht, rfl⟩)
  | raw hdigits htrim => rw [cell, hexBytes_eq_ok_iff.2 ⟨_, hdigits, htrim⟩, Except.map_ok]

/-- A type makes of a value the cell that the value denotes, and refuses every other value. -/
theorem cell_eq_ok_iff {type : BindType} {c : Cell} :
    type.cell value = .ok c ↔ Denotes type value c :=
  ⟨denotes_of_cell, cell_of_denotes⟩

end SeriesQuery.BindType
