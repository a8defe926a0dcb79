import SeriesQuery.Proofs.BindSpec.Refusal

/-!
# Raw values

A raw value is the bytes of a number, written as pairs of hexadecimal digits. White space around it and
one mark `0x` in front of it do not count. What is left decides: it is judged before anything is read, so
that the reading of the pairs, which goes by places, never leaves the text, never takes a character apart
and never meets a sign.
-/

namespace SeriesQuery.BindType

variable {value digits : List Char} {bytes : Bytes}

/-- What is left of a text without the mark in front of it. A second mark is left. -/
inductive Unmarks : List Char → List Char → Prop where
  | marked (digits : List Char) : Unmarks ('0' :: 'x' :: digits) digits
  | unmarked {text : List Char} : (∀ digits, text ≠ '0' :: 'x' :: digits) → Unmarks text text

theorem unmarks_withoutMark (text : List Char) : Unmarks text (withoutMark text) := by
  unfold withoutMark
  split
  · exact .marked _
  · rename_i hmark
    exact .unmarked hmark

theorem Unmarks.eq {text : List Char} (h : Unmarks text digits) : digits = withoutMark text := by
  cases h with
  | marked => rfl
  | unmarked hmark => exact (withoutMark_of_unmarked hmark).symm

theorem exists_hexBytes_iff :
    (∃ bytes, hexBytes value = .ok bytes) ↔
      (withoutMark (trim value)).length % 2 = 0 ∧ ∀ c ∈ withoutMark (trim value), IsHexDigit c := by
  simp only [hexBytes_eq_ok_iff_digits]
  exact Bytes.exists_ofHexDigits?_iff

theorem pairedAs_of_hexBytes (h : hexBytes value = .ok bytes) :
    Bytes.PairedAs (withoutMark (trim value)) bytes :=
  Bytes.pairedAs_of_ofHexDigits? (hexBytes_eq_ok_iff_digits.1 h)

theorem kind_of_hexBytes {e : Error} (h : hexBytes value = .error e) : e.kind = .encoding := by
  obtain ⟨description, causes, rfl⟩ := blames_hexBytes value e h
  rfl

/-- A raw value is read exactly if an even number of digits is left of it, and then each byte is that
of the next two digits, so that the bytes are written with the same digits in lower case. Behind the
judgement all places are read: the two bytes there are characters of the text, and a number is read
from them. Every other value is refused as an encoding error. -/
theorem raw_values_are_pairs_of_digits (value : List Char) :
    ∃ digits, Unmarks (trim value) digits ∧
      ((∃ bytes, hexBytes value = .ok bytes) ↔
        digits.length % 2 = 0 ∧ ∀ c ∈ digits, IsHexDigit c) ∧
      (∀ bytes, hexBytes value = .ok bytes → Bytes.PairedAs digits bytes) ∧
      (Bytes.isPairsOfDigits digits →
        (∃ bytes, Bytes.readPairs digits = .ok bytes) ∧
        ∀ place ∈ Bytes.pairPlaces digits, Bytes.ReadsAt digits place) ∧
      ∀ e, hexBytes value = .error e → e.kind = .encoding := by
  refine ⟨withoutMark (trim value), unmarks_withoutMark _, exists_hexBytes_iff,
    fun _ => pairedAs_of_hexBytes, fun hjudged => ⟨?_, ?_⟩, fun _ => kind_of_hexBytes⟩
  · obtain ⟨bytes, -, hread⟩ := Bytes.exists_readPairs hjudged
    exact ⟨bytes, hread⟩
  · intro place hplace
    exact Bytes.readsAt_of_mem_pairPlaces hjudged hplace

/-- White space, the mark and letters of both cases; and a value with a second mark. -/
theorem raw_values_are_pairs_of_digits_of_marks :
    hexBytes " 0x0aF9\n".toList = .ok [0x0A, 0xF9] ∧ Bytes.PairedAs "0aF9".toList [0x0A, 0xF9] ∧
    Bytes.isPairsOfDigits "0aF9".toList ∧ Bytes.ReadsAt "0aF9".toList 2 ∧
    ∃ e, hexBytes "0x0x00".toList = .error e ∧ e.kind = .encoding := by
  obtain ⟨digits, hdigits, -, hpaired, hplaces, -⟩ :=
    raw_values_are_pairs_of_digits " 0x0aF9\n".toList
  obtain ⟨-, -, -, -, -, hrefused⟩ := raw_values_are_pairs_of_digits "0x0x00".toList
  obtain rfl : digits = "0aF9".toList := hdigits.eq
  have hread : hexBytes " 0x0aF9\n".toList = .ok [0x0A, 0xF9] := rfl
  have hjudged : Bytes.isPairsOfDigits "0aF9".toList := rfl
  exact ⟨hread, hpaired _ hread, hjudged, (hplaces hjudged).2 2 (by decide), _, rfl,
    hrefused _ rfl⟩

end SeriesQuery.BindType
