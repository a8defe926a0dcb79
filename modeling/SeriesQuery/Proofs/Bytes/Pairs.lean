import SeriesQuery.Bytes.Pairs
import SeriesQuery.Proofs.Judgements
import SeriesQuery.Proofs.Number.Integer
import SeriesQuery.Proofs.Text.Hex
import SeriesQuery.Proofs.Text.Slice

/-!
# Pairs of digits, place by place

The judgement of a text by its bytes is one of its characters, since no byte of a longer character is a
digit. Behind it the reading from place to place takes the same pairs as the recursion on the characters,
and no place is at fault: the two bytes there are two characters, and both are digits.
-/

namespace SeriesQuery

theorem IsHexDigit.toNat_lt {c : Char} (h : IsHexDigit c) : c.toNat < 0x80 := by
  obtain ⟨n, hn⟩ := exists_hexValue?_iff.2 h
  exact toNat_lt_of_hexValue? hn

theorem hexValue?_ne_sign {c : Char} {n : Nat} (h : hexValue? c = some n) : c ≠ '+' ∧ c ≠ '-' := by
  constructor
  · rintro rfl
    cases h
  · rintro rfl
    cases h

/-- Two digits are read as one number of eight bits. -/
theorem IntegerRange.parseIn_pair {high low : Char} {h l : Nat} (hhigh : hexValue? high = some h)
    (hlow : hexValue? low = some l) :
    octet.parseIn .hexadecimal [high, low] = .ok (16 * h + l : Nat) := by
  obtain ⟨hplus, hminus⟩ := hexValue?_ne_sign hhigh
  have hh : h < 16 := (hexValue?_eq_some_iff.1 hhigh).1
  have hl : l < 16 := (hexValue?_eq_some_iff.1 hlow).1
  have hfirst : 0 * 16 + h ≤ 255 := by omega
  have hsecond : (0 * 16 + h) * 16 + l ≤ 255 := by omega
  have hdigits : Radix.hexadecimal.boundedDigits 255 .tooLarge 0 [high, low] =
      .ok ((0 * 16 + h) * 16 + l) :=
    (Radix.boundedDigits_digit hhigh hfirst).trans (Radix.boundedDigits_digit hlow hsecond)
  have hnumber : (0 * 16 + h) * 16 + l = 16 * h + l := by omega
  rw [hnumber] at hdigits
  rw [octet.parseIn_of_ne .hexadecimal hplus hminus [low]]
  exact congrArg (Except.map Int.ofNat) hdigits

namespace Bytes

/-! ### The judgement of a text -/

theorem toNat_lt_of_isHexDigit {b : UInt8} (h : isHexDigit b) : b.toNat < 0x80 := by
  simp only [isHexDigit, Bool.or_eq_true, Bool.and_eq_true, decide_eq_true_eq,
    UInt8.le_iff_toNat_le] at h
  have h9 : (0x39 : UInt8).toNat = 0x39 := rfl
  have hF : (0x46 : UInt8).toNat = 0x46 := rfl
  have hf : (0x66 : UInt8).toNat = 0x66 := rfl
  omega

theorem isHexDigit_ascii {c : Char} (h : c.toNat < 0x80) :
    isHexDigit (UInt8.ofNat c.toNat) ↔ IsHexDigit c :=
  Utf8.forall_ascii h (by unfold IsHexDigit; decide +kernel)

theorem all_isHexDigit_encodeChar (c : Char) :
    (String.utf8EncodeChar c).all isHexDigit ↔ IsHexDigit c := by
  rcases Nat.lt_or_ge c.toNat 0x80 with hc | hc
  · rw [Utf8.encodeChar_ascii hc, List.all_cons, List.all_nil, Bool.and_true]
    exact isHexDigit_ascii hc
  · refine iff_of_false ?_ fun h => by have := h.toNat_lt; omega
    intro hall
    obtain ⟨b, hb, hhigh⟩ := Utf8.exists_of_encodeChar hc
    have hlow := toNat_lt_of_isHexDigit (List.all_eq_true.1 hall b hb)
    omega

theorem isPairsOfDigits_iff {text : List Char} :
    isPairsOfDigits text ↔ text.length % 2 = 0 ∧ ∀ c ∈ text, IsHexDigit c := by
  have hdigits : (Utf8.encode text).all isHexDigit ↔ ∀ c ∈ text, IsHexDigit c := by
    rw [Utf8.encode, List.all_flatMap, List.all_eq_true]
    simp only [all_isHexDigit_encodeChar]
  rw [isPairsOfDigits, Bool.and_eq_true, beq_iff_eq, hdigits]
  refine and_congr_left fun hall => ?_
  rw [Utf8.size_ascii fun c hc => (hall c hc).toNat_lt]

/-! ### The reading of the pairs -/

variable {text : List Char} {bytes : Bytes}

theorem length_of_ofHexDigits? (h : ofHexDigits? text = some bytes) :
    text.length = 2 * bytes.length := by
  have hlength := congrArg List.length (ofHexDigits?_eq_some_iff.1 h)
  rwa [List.length_map, length_hexDigits] at hlength

/-- Two digits stand for each byte, and its higher half comes first. -/
structure PairedAs (digits : List Char) (bytes : Bytes) : Prop where
  length_eq : digits.length = 2 * bytes.length
  byte_eq : ∀ (k : Nat) (b : UInt8), bytes[k]? = some b →
    ∃ high low h l, digits[2 * k]? = some high ∧ digits[2 * k + 1]? = some low ∧
      hexValue? high = some h ∧ hexValue? low = some l ∧ b.toNat = 16 * h + l
  toHex_eq : bytes.toHex.toList = digits.map Char.toLower

theorem byte_of_ofHexDigits? (h : ofHexDigits? text = some bytes) {k : Nat} {b : UInt8}
    (hb : bytes[k]? = some b) :
    ∃ high low h l, text[2 * k]? = some high ∧ text[2 * k + 1]? = some low ∧
      hexValue? high = some h ∧ hexValue? low = some l ∧ b.toNat = 16 * h + l := by
  induction bytes generalizing text k with
  | nil => cases hb
  | cons first bytes ih =>
    match text, h with
    | high :: low :: rest, h =>
      obtain ⟨hhigh, hlow, hrest⟩ := ofHexDigits?_cons_eq_some_iff.1 h
      cases k with
      | zero =>
        obtain rfl := Option.some.inj hb
        exact ⟨high, low, _, _, rfl, rfl, hhigh, hlow, by omega⟩
      | succ k => exact ih hrest hb

theorem pairedAs_of_ofHexDigits? (h : ofHexDigits? text = some bytes) : PairedAs text bytes where
  length_eq := length_of_ofHexDigits? h
  byte_eq := fun _ _ => byte_of_ofHexDigits? h
  toHex_eq := by rw [toHex, String.toList_ofList, ofHexDigits?_eq_some_iff.1 h]

theorem size_pair {high low : Char} {h l : Nat} (hhigh : hexValue? high = some h)
    (hlow : hexValue? low = some l) : Utf8.size [high, low] = 2 := by
  apply Utf8.size_ascii
  simp [toNat_lt_of_hexValue? hhigh, toNat_lt_of_hexValue? hlow]

/-- Behind the digits that have been read, the next two are a slice, and they are read as a number. -/
theorem pairAt_append {front rest : List Char} {high low : Char} {h l : Nat}
    (hhigh : hexValue? high = some h) (hlow : hexValue? low = some l) :
    pairAt (front ++ high :: low :: rest) (Utf8.size front) = .ok (UInt8.ofNat (16 * h + l)) := by
  have hslice : Utf8.slice? (Utf8.size front) 2 (front ++ high :: low :: rest) = some [high, low] :=
    Utf8.slice?_eq_some_iff.2 ⟨front, rest, by simp, rfl, size_pair hhigh hlow⟩
  rw [pairAt, hslice]
  simp only [IntegerRange.parseIn_pair hhigh hlow, Int.toNat_natCast]

/-- From each place on, the bytes of the digits that are left are read. -/
theorem mapM_pairAt_append (h : ofHexDigits? text = some bytes) (front : List Char) :
    (List.range' (Utf8.size front) bytes.length 2).mapM (pairAt (front ++ text)) = .ok bytes := by
  induction bytes generalizing text front with
  | nil => rfl
  | cons b bytes ih =>
    match text, h with
    | high :: low :: rest, h =>
      obtain ⟨hhigh, hlow, hrest⟩ := ofHexDigits?_cons_eq_some_iff.1 h
      have hb : 16 * (b.toNat / 16) + b.toNat % 16 = b.toNat := by omega
      have hfirst : pairAt (front ++ high :: low :: rest) (Utf8.size front) = .ok b := by
        rw [pairAt_append hhigh hlow, hb, UInt8.ofNat_toNat]
      -- The pair joins what has been read, and the next place is the one behind it.
      have hplace : Utf8.size front + 2 = Utf8.size (front ++ [high, low]) := by
        rw [Utf8.size_append, size_pair hhigh hlow]
      have htext : front ++ high :: low :: rest = front ++ [high, low] ++ rest := by simp
      rw [List.length_cons, List.range'_succ, List.mapM_cons, hfirst, hplace, htext,
        ih hrest (front ++ [high, low])]
      rfl

/-- Where the recursion on the characters finds bytes, the loop over the places finds them. -/
theorem readPairs_of_ofHexDigits? (h : ofHexDigits? text = some bytes) :
    readPairs text = .ok bytes := by
  have hdigits := (exists_ofHexDigits?_iff.1 ⟨bytes, h⟩).2
  have hsize : Utf8.size text = 2 * bytes.length := by
    rw [Utf8.size_ascii fun c hc => (hdigits c hc).toNat_lt, length_of_ofHexDigits? h]
  have hcount : (Utf8.size text + 1) / 2 = bytes.length := by omega
  rw [readPairs, pairPlaces, hcount]
  exact mapM_pairAt_append h []

theorem exists_readPairs (h : isPairsOfDigits text) :
    ∃ bytes, ofHexDigits? text = some bytes ∧ readPairs text = .ok bytes := by
  obtain ⟨bytes, hbytes⟩ := exists_ofHexDigits?_iff.2 (isPairsOfDigits_iff.1 h)
  exact ⟨bytes, hbytes, readPairs_of_ofHexDigits? hbytes⟩

/-- The two bytes at a place are characters of the text, and a number is read from them. -/
def ReadsAt (text : List Char) (place : Nat) : Prop :=
  ∃ before pair after, text = before ++ pair ++ after ∧ Utf8.size before = place ∧
    Utf8.size pair = 2 ∧ Utf8.slice? place 2 text = some pair ∧
    ∃ n, IntegerRange.octet.parseIn .hexadecimal pair = .ok n

theorem readsAt_of_pairAt {place : Nat} {b : UInt8} (h : pairAt text place = .ok b) :
    ReadsAt text place := by
  rw [pairAt] at h
  split at h
  · cases h
  · rename_i pair hslice
    obtain ⟨before, after, htext, hplace, hpair⟩ := Utf8.slice?_eq_some_iff.1 hslice
    split at h
    · rename_i n hn
      exact ⟨before, pair, after, htext, hplace, hpair, hslice, n, hn⟩
    · cases h

/-- Of a text of pairs every place is read, since the loop comes to its end. -/
theorem readsAt_of_mem_pairPlaces (h : isPairsOfDigits text) {place : Nat}
    (hplace : place ∈ pairPlaces text) : ReadsAt text place := by
  obtain ⟨bytes, -, hread⟩ := exists_readPairs h
  obtain ⟨b, -, hb⟩ := exists_right_of_forall₂ (mapM_eq_ok_iff.1 hread) hplace
  exact readsAt_of_pairAt hb

-- What the judgement keeps from the loop: a sign in front of a number, and half a character.
example : pairAt "+f".toList 0 = .ok 0x0F := rfl

example : pairAt "aé0".toList 0 = .error .noSlice := rfl

end Bytes

end SeriesQuery
