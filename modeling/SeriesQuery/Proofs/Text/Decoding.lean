import Mathlib.Tactic.SplitIfs
import SeriesQuery.Proofs.Text.Utf8

/-!
# Only bytes of a text are decoded

Decoding succeeds on exactly the bytes of texts, and gives the one text whose bytes they are. A piece
that is a character has used up exactly the bytes of the character: overlong forms, surrogates and
numbers beyond the last character are what the bounds on the second byte keep out.
-/

namespace SeriesQuery.Utf8

/-! ### The bytes of an assembled character -/

theorem toNat_ofNat_of_valid {n : Nat} (h : n < 0xD800 ∨ 0xDFFF < n ∧ n < 0x110000) :
    (Char.ofNat n).toNat = n := by
  rw [Char.ofNat, dif_pos (show n.isValidChar from h)]
  rfl

theorem continuation_bounds {b : UInt8} (h : isContinuation b) :
    0x80 ≤ b.toNat ∧ b.toNat ≤ 0xBF := by
  simpa [isContinuation, UInt8.le_iff_toNat_le] using h

theorem second_bounds {a b : UInt8} (h : secondFits a b) : 0x80 ≤ b.toNat ∧ b.toNat ≤ 0xBF := by
  simp only [secondFits, Bool.and_eq_true, decide_eq_true_eq, UInt8.le_iff_toNat_le] at h
  obtain ⟨hlow, hhigh⟩ := h
  constructor
  · apply Nat.le_trans _ hlow
    split_ifs <;> decide
  · apply Nat.le_trans hhigh
    split_ifs <;> decide

/-- The first bytes behind which only a part of the continuation bytes can stand. -/
theorem second_bounds_special {a b : UInt8} (h : secondFits a b) :
    (a.toNat = 0xE0 → 0xA0 ≤ b.toNat) ∧ (a.toNat = 0xED → b.toNat ≤ 0x9F) ∧
      (a.toNat = 0xF0 → 0x90 ≤ b.toNat) ∧ (a.toNat = 0xF4 → b.toNat ≤ 0x8F) := by
  have heq {n : Nat} (hn : a.toNat = n) : a = UInt8.ofNat n := by
    rw [← hn, UInt8.ofNat_toNat]
  simp only [secondFits, Bool.and_eq_true, decide_eq_true_eq, UInt8.le_iff_toNat_le] at h
  refine ⟨fun ha => ?_, fun ha => ?_, fun ha => ?_, fun ha => ?_⟩ <;> obtain rfl := heq ha
  · exact h.1
  · exact h.2
  · exact h.1
  · exact h.2

theorem encodeChar_one {a : UInt8} (h : a.toNat < 0x80) :
    String.utf8EncodeChar (assemble a.toNat []) = [a] := by
  have hn : (assemble a.toNat []).toNat = a.toNat := toNat_ofNat_of_valid (.inl (by simpa using by omega))
  rw [encodeChar_ascii (by omega), hn, UInt8.ofNat_toNat]

theorem encodeChar_two {a b : UInt8} (hlow : 0xC2 ≤ a.toNat) (hhigh : a.toNat < 0xE0)
    (hsecond : secondFits a b) :
    String.utf8EncodeChar (assemble (a.toNat - 0xC0) [b]) = [a, b] := by
  obtain ⟨hb, hb'⟩ := second_bounds hsecond
  have hn : (assemble (a.toNat - 0xC0) [b]).toNat = (a.toNat - 0xC0) * 64 + (b.toNat - 0x80) :=
    toNat_ofNat_of_valid (by simp only [List.foldl_cons, List.foldl_nil]; omega)
  rcases encodeChar_cases (assemble (a.toNat - 0xC0) [b]) with ⟨h, -⟩ | ⟨-, -, heq⟩ | ⟨h, -⟩ | ⟨h, -⟩
  · omega
  · have ha : 0xC0 + (assemble (a.toNat - 0xC0) [b]).toNat / 0x40 = a.toNat := by omega
    have hb : 0x80 + (assemble (a.toNat - 0xC0) [b]).toNat % 0x40 = b.toNat := by omega
    rw [heq, ha, hb, UInt8.ofNat_toNat, UInt8.ofNat_toNat]
  · omega
  · omega

theorem encodeChar_three {a b c : UInt8} (hlow : 0xE0 ≤ a.toNat) (hhigh : a.toNat < 0xF0)
    (hsecond : secondFits a b) (hthird : isContinuation c) :
    String.utf8EncodeChar (assemble (a.toNat - 0xE0) [b, c]) = [a, b, c] := by
  obtain ⟨hb, hb'⟩ := second_bounds hsecond
  obtain ⟨hE0, hED, -, -⟩ := second_bounds_special hsecond
  obtain ⟨hc, hc'⟩ := continuation_bounds hthird
  have hn : (assemble (a.toNat - 0xE0) [b, c]).toNat =
      ((a.toNat - 0xE0) * 64 + (b.toNat - 0x80)) * 64 + (c.toNat - 0x80) :=
    toNat_ofNat_of_valid (by simp only [List.foldl_cons, List.foldl_nil]; omega)
  generalize assemble (a.toNat - 0xE0) [b, c] = x at hn
  rcases encodeChar_cases x with ⟨h, -⟩ | ⟨-, h, -⟩ | ⟨-, -, heq⟩ | ⟨h, -⟩
  · omega
  · omega
  · have ha : 0xE0 + x.toNat / 0x1000 = a.toNat := by omega
    have hb : 0x80 + x.toNat / 0x40 % 0x40 = b.toNat := by omega
    have hc : 0x80 + x.toNat % 0x40 = c.toNat := by omega
    rw [heq, ha, hb, hc, UInt8.ofNat_toNat, UInt8.ofNat_toNat, UInt8.ofNat_toNat]
  · omega

theorem encodeChar_four {a b c d : UInt8} (hlow : 0xF0 ≤ a.toNat) (hhigh : a.toNat ≤ 0xF4)
    (hsecond : secondFits a b) (hthird : isContinuation c) (hfourth : isContinuation d) :
    String.utf8EncodeChar (assemble (a.toNat - 0xF0) [b, c, d]) = [a, b, c, d] := by
  obtain ⟨hb, hb'⟩ := second_bounds hsecond
  obtain ⟨-, -, hF0, hF4⟩ := second_bounds_special hsecond
  obtain ⟨hc, hc'⟩ := continuation_bounds hthird
  obtain ⟨hd, hd'⟩ := continuation_bounds hfourth
  have hn : (assemble (a.toNat - 0xF0) [b, c, d]).toNat =
      (((a.toNat - 0xF0) * 64 + (b.toNat - 0x80)) * 64 + (c.toNat - 0x80)) * 64 +
        (d.toNat - 0x80) :=
    toNat_ofNat_of_valid (by simp only [List.foldl_cons, List.foldl_nil]; omega)
  generalize assemble (a.toNat - 0xF0) [b, c, d] = x at hn
  rcases encodeChar_cases x with ⟨h, -⟩ | ⟨-, h, -⟩ | ⟨-, h, -⟩ | ⟨-, -, heq⟩
  · omega
  · omega
  · omega
  · have ha : 0xF0 + x.toNat / 0x40000 = a.toNat := by omega
    have hb : 0x80 + x.toNat / 0x1000 % 0x40 = b.toNat := by omega
    have hc : 0x80 + x.toNat / 0x40 % 0x40 = c.toNat := by omega
    have hd : 0x80 + x.toNat % 0x40 = d.toNat := by omega
    rw [heq, ha, hb, hc, hd]
    simp only [UInt8.ofNat_toNat]

/-! ### From the pieces back to the bytes -/

theorem pieces_eq_nil {bytes : Bytes} (h : pieces bytes = []) : bytes = [] := by
  revert h
  fun_cases pieces bytes
  case case1 => exact fun _ => rfl
  all_goals
    intro h
    cases h

/-- A character among the pieces stands for its own bytes. -/
theorem eq_append_of_pieces {bytes : Bytes} {c : Char} {rest : List Piece}
    (h : pieces bytes = .char c :: rest) :
    ∃ tail, bytes = String.utf8EncodeChar c ++ tail ∧ pieces tail = rest := by
  have hlead {a : UInt8} (ha : ¬(decide (a < 0xC2) || decide (0xF4 < a)) = true) :
      0xC2 ≤ a.toNat ∧ a.toNat ≤ 0xF4 := by
    simpa [UInt8.lt_iff_toNat_lt] using ha
  have hnot {a b : UInt8} (ha : ¬a < b) : b.toNat ≤ a.toNat :=
    Nat.not_lt.1 fun hlt => ha (UInt8.lt_iff_toNat_lt.2 hlt)
  revert h
  fun_cases pieces bytes
  case case2 a tail hone =>
    intro h
    obtain ⟨hc, rfl⟩ := List.cons.inj h
    have hchar := encodeChar_one (UInt8.lt_iff_toNat_lt.1 hone)
    exact ⟨tail, by rw [← Piece.char.inj hc, hchar]; rfl, rfl⟩
  case case6 a _ hbounds b tail hsecond htwo =>
    intro h
    obtain ⟨hc, rfl⟩ := List.cons.inj h
    have hsecond : secondFits a b := by simpa using hsecond
    have hchar := encodeChar_two (hlead hbounds).1 (UInt8.lt_iff_toNat_lt.1 htwo) hsecond
    exact ⟨tail, by rw [← Piece.char.inj hc, hchar]; rfl, rfl⟩
  case case9 a _ hbounds b hsecond htwo c tail hthird hthree =>
    intro h
    obtain ⟨hc, rfl⟩ := List.cons.inj h
    have hsecond : secondFits a b := by simpa using hsecond
    have hthird : isContinuation c := by simpa using hthird
    have hchar := encodeChar_three (hnot htwo) (UInt8.lt_iff_toNat_lt.1 hthree) hsecond hthird
    exact ⟨tail, by rw [← Piece.char.inj hc, hchar]; rfl, rfl⟩
  case case12 a _ hbounds b hsecond _ c hthird hthree d tail hfourth =>
    intro h
    obtain ⟨hc, rfl⟩ := List.cons.inj h
    have hsecond : secondFits a b := by simpa using hsecond
    have hthird : isContinuation c := by simpa using hthird
    have hfourth : isContinuation d := by simpa using hfourth
    have hchar := encodeChar_four (hnot hthree) (hlead hbounds).2 hsecond hthird hfourth
    exact ⟨tail, by rw [← Piece.char.inj hc, hchar]; rfl, rfl⟩
  -- In all other cases the first piece is no character.
  all_goals
    intro h
    cases h

/-- Decoding gets past the first piece only if that is a character. -/
theorem exists_of_charactersAt {index : Nat} {piece : Piece} {rest : List Piece} {text : List Char}
    (h : charactersAt index (piece :: rest) = .ok text) :
    ∃ c more, piece = .char c ∧ text = c :: more ∧
      charactersAt (index + c.utf8Size) rest = .ok more := by
  cases piece with
  | char c =>
    cases hrest : charactersAt (index + c.utf8Size) rest with
    | error flaw =>
      rw [charactersAt, hrest] at h
      cases h
    | ok more =>
      rw [charactersAt, hrest] at h
      exact ⟨c, more, rfl, (Except.ok.inj h).symm, hrest⟩
  | bad length => cases h
  | cut => cases h

theorem encode_of_charactersAt {index : Nat} {bytes : Bytes} {text : List Char}
    (h : charactersAt index (pieces bytes) = .ok text) : encode text = bytes := by
  induction text generalizing index bytes with
  | nil =>
    cases hpieces : pieces bytes with
    | nil => exact (pieces_eq_nil hpieces).symm
    | cons piece rest =>
      rw [hpieces] at h
      obtain ⟨_, _, _, htext, _⟩ := exists_of_charactersAt h
      cases htext
  | cons c text ih =>
    cases hpieces : pieces bytes with
    | nil =>
      rw [hpieces] at h
      cases h
    | cons piece rest =>
      rw [hpieces] at h
      obtain ⟨d, more, rfl, htext, hmore⟩ := exists_of_charactersAt h
      obtain ⟨rfl, rfl⟩ := List.cons.inj htext
      obtain ⟨tail, rfl, rfl⟩ := eq_append_of_pieces hpieces
      rw [encode, List.flatMap_cons]
      exact congrArg _ (ih hmore)

/-- The bytes that can be decoded are those of texts. -/
theorem decode_eq_ok_iff {bytes : Bytes} {text : List Char} :
    decode bytes = .ok text ↔ encode text = bytes := by
  constructor
  · exact encode_of_charactersAt
  · rintro rfl
    exact decode_encode text

end SeriesQuery.Utf8
