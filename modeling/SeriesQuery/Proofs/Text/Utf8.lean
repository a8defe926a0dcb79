import SeriesQuery.Text.Utf8

/-!
# UTF-8 both ways, and its order

The bytes of a text are cut into exactly its characters, so decoding gives the text back, strictly
and lossily alike, and different texts have different bytes. The order of the bytes is the order of
the characters: of two characters the one with the greater number has the greater bytes, at a place
that both have, so that nothing after it matters.
-/

namespace SeriesQuery.Utf8

/-! ### The bytes of a character -/

theorem toNat_lt_surrogates_or_gt (c : Char) :
    c.toNat < 0xD800 ∨ 0xDFFF < c.toNat ∧ c.toNat < 0x110000 :=
  c.valid

/-- The bytes of a character, by the size of its number. -/
theorem encodeChar_cases (c : Char) :
    (c.toNat < 0x80 ∧ String.utf8EncodeChar c = [UInt8.ofNat c.toNat]) ∨
    (0x80 ≤ c.toNat ∧ c.toNat < 0x800 ∧
      String.utf8EncodeChar c =
        [UInt8.ofNat (0xC0 + c.toNat / 0x40), UInt8.ofNat (0x80 + c.toNat % 0x40)]) ∨
    (0x800 ≤ c.toNat ∧ c.toNat < 0x10000 ∧
      String.utf8EncodeChar c =
        [UInt8.ofNat (0xE0 + c.toNat / 0x1000), UInt8.ofNat (0x80 + c.toNat / 0x40 % 0x40),
          UInt8.ofNat (0x80 + c.toNat % 0x40)]) ∨
    (0x10000 ≤ c.toNat ∧ c.toNat < 0x110000 ∧
      String.utf8EncodeChar c =
        [UInt8.ofNat (0xF0 + c.toNat / 0x40000), UInt8.ofNat (0x80 + c.toNat / 0x1000 % 0x40),
          UInt8.ofNat (0x80 + c.toNat / 0x40 % 0x40), UInt8.ofNat (0x80 + c.toNat % 0x40)]) := by
  have hvalid := toNat_lt_surrogates_or_gt c
  have hn : c.val.toNat = c.toNat := rfl
  unfold String.utf8EncodeChar
  simp only [hn]
  by_cases h1 : c.toNat ≤ 0x7F
  · exact .inl ⟨by omega, by rw [if_pos h1]⟩
  · rw [if_neg h1]
    by_cases h2 : c.toNat ≤ 0x7FF
    · refine .inr (.inl ⟨by omega, by omega, ?_⟩)
      rw [if_pos h2, Nat.mod_eq_of_lt (show c.toNat / 64 < 0x20 by omega), Nat.add_comm,
        Nat.add_comm (c.toNat % 64)]
    · rw [if_neg h2]
      by_cases h3 : c.toNat ≤ 0xFFFF
      · refine .inr (.inr (.inl ⟨by omega, by omega, ?_⟩))
        rw [if_pos h3, Nat.mod_eq_of_lt (show c.toNat / 4096 < 0x10 by omega), Nat.add_comm,
          Nat.add_comm (c.toNat / 64 % 64), Nat.add_comm (c.toNat % 64)]
      · refine .inr (.inr (.inr ⟨by omega, by omega, ?_⟩))
        rw [if_neg h3, Nat.mod_eq_of_lt (show c.toNat / 262144 < 0x08 by omega), Nat.add_comm,
          Nat.add_comm (c.toNat / 4096 % 64), Nat.add_comm (c.toNat / 64 % 64),
          Nat.add_comm (c.toNat % 64)]

theorem encode_append (front rest : List Char) :
    encode (front ++ rest) = encode front ++ encode rest :=
  List.flatMap_append

/-- A fact about the characters of ASCII is checked for each of them. -/
@[elab_as_elim]
theorem forall_ascii {motive : Char → Prop} {c : Char} (hc : c.toNat < 0x80)
    (h : ∀ n < 0x80, motive (Char.ofNat n)) : motive c := by
  have hp := h c.toNat hc
  rwa [Char.ofNat_toNat] at hp

theorem encodeChar_ascii {c : Char} (h : c.toNat < 0x80) :
    String.utf8EncodeChar c = [UInt8.ofNat c.toNat] := by
  rcases encodeChar_cases c with ⟨-, heq⟩ | ⟨hlow, -⟩ | ⟨hlow, -⟩ | ⟨hlow, -⟩
  · exact heq
  all_goals omega

/-- An ASCII text has one byte for each of its characters. -/
theorem encode_ascii {text : List Char} (h : ∀ c ∈ text, c.toNat < 0x80) :
    encode text = text.map fun c => UInt8.ofNat c.toNat := by
  induction text with
  | nil => rfl
  | cons c rest ih =>
    rw [encode, List.flatMap_cons, encodeChar_ascii (h c List.mem_cons_self), List.map_cons]
    exact congrArg _ (ih fun d hd => h d (List.mem_cons_of_mem c hd))

/-- The last byte of a character beyond ASCII is none of ASCII. -/
theorem exists_of_encodeChar {c : Char} (h : 0x80 ≤ c.toNat) :
    ∃ b ∈ String.utf8EncodeChar c, 0x80 ≤ b.toNat := by
  refine ⟨UInt8.ofNat (0x80 + c.toNat % 0x40), ?_, ?_⟩
  · rcases encodeChar_cases c with ⟨hlow, -⟩ | ⟨-, -, heq⟩ | ⟨-, -, heq⟩ | ⟨-, -, heq⟩
    · omega
    all_goals simp [heq]
  · have hb : 0x80 + c.toNat % 0x40 < 0x100 := by omega
    rw [UInt8.toNat_ofNat_of_lt' hb]
    omega

/-! ### Decoding -/

theorem pieces_one {a : UInt8} (rest : Bytes) (h : a.toNat < 0x80) :
    pieces (a :: rest) = .char (assemble a.toNat []) :: pieces rest := by
  have h1 : a < 0x80 := UInt8.lt_iff_toNat_lt.2 h
  rw [pieces.eq_def]
  simp only [h1, if_true]

theorem pieces_two {a b : UInt8} (rest : Bytes) (hlow : 0xC2 ≤ a.toNat) (hhigh : a.toNat < 0xE0)
    (hsecond : secondFits a b) :
    pieces (a :: b :: rest) = .char (assemble (a.toNat - 0xC0) [b]) :: pieces rest := by
  have h1 : ¬a < 0x80 := by simp [UInt8.lt_iff_toNat_lt]; omega
  have h2 : ¬(a < 0xC2 || 0xF4 < a) := by simp [UInt8.lt_iff_toNat_lt]; omega
  have h3 : a < 0xE0 := UInt8.lt_iff_toNat_lt.2 hhigh
  rw [pieces.eq_def]
  simp only [h1, h2, h3, hsecond, if_true, if_false, Bool.not_true, Bool.false_eq_true]

theorem pieces_three {a b c : UInt8} (rest : Bytes) (hlow : 0xE0 ≤ a.toNat) (hhigh : a.toNat < 0xF0)
    (hsecond : secondFits a b) (hthird : isContinuation c) :
    pieces (a :: b :: c :: rest) = .char (assemble (a.toNat - 0xE0) [b, c]) :: pieces rest := by
  have h1 : ¬a < 0x80 := by simp [UInt8.lt_iff_toNat_lt]; omega
  have h2 : ¬(a < 0xC2 || 0xF4 < a) := by simp [UInt8.lt_iff_toNat_lt]; omega
  have h3 : ¬a < 0xE0 := by simp [UInt8.lt_iff_toNat_lt]; omega
  have h4 : a < 0xF0 := UInt8.lt_iff_toNat_lt.2 hhigh
  rw [pieces.eq_def]
  simp only [h1, h2, h3, h4, hsecond, hthird, if_true, if_false, Bool.not_true, Bool.false_eq_true]

theorem pieces_four {a b c d : UInt8} (rest : Bytes) (hlow : 0xF0 ≤ a.toNat)
    (hhigh : a.toNat ≤ 0xF4) (hsecond : secondFits a b) (hthird : isContinuation c)
    (hfourth : isContinuation d) :
    pieces (a :: b :: c :: d :: rest) =
      .char (assemble (a.toNat - 0xF0) [b, c, d]) :: pieces rest := by
  have h1 : ¬a < 0x80 := by simp [UInt8.lt_iff_toNat_lt]; omega
  have h2 : ¬(a < 0xC2 || 0xF4 < a) := by simp [UInt8.lt_iff_toNat_lt]; omega
  have h3 : ¬a < 0xE0 := by simp [UInt8.lt_iff_toNat_lt]; omega
  have h4 : ¬a < 0xF0 := by simp [UInt8.lt_iff_toNat_lt]; omega
  rw [pieces.eq_def]
  simp only [h1, h2, h3, h4, hsecond, hthird, hfourth, if_false, Bool.not_true, Bool.false_eq_true]

theorem secondFits_of_toNat {a b : UInt8} (hlow : 0x80 ≤ b.toNat) (hhigh : b.toNat ≤ 0xBF)
    (hE0 : a.toNat = 0xE0 → 0xA0 ≤ b.toNat) (hED : a.toNat = 0xED → b.toNat ≤ 0x9F)
    (hF0 : a.toNat = 0xF0 → 0x90 ≤ b.toNat) (hF4 : a.toNat = 0xF4 → b.toNat ≤ 0x8F) :
    secondFits a b := by
  simp only [secondFits, Bool.and_eq_true, decide_eq_true_eq, UInt8.le_iff_toNat_le]
  constructor
  · split
    · rename_i h
      exact hE0 (congrArg UInt8.toNat h)
    · split
      · rename_i h
        exact hF0 (congrArg UInt8.toNat h)
      · exact hlow
  · split
    · rename_i h
      exact hED (congrArg UInt8.toNat h)
    · split
      · rename_i h
        exact hF4 (congrArg UInt8.toNat h)
      · exact hhigh

theorem isContinuation_ofNat (n : Nat) : isContinuation (UInt8.ofNat (0x80 + n % 0x40)) := by
  have hn : (UInt8.ofNat (0x80 + n % 0x40)).toNat = 0x80 + n % 0x40 :=
    UInt8.toNat_ofNat_of_lt' (by simp [UInt8.size]; omega)
  simp only [isContinuation, Bool.and_eq_true, decide_eq_true_eq, UInt8.le_iff_toNat_le, hn]
  constructor
  · exact Nat.le_add_right _ _
  · change _ ≤ 0xBF
    omega

private theorem toNat_ofNat_byte {n : Nat} (h : n < 0x100) : (UInt8.ofNat n).toNat = n :=
  UInt8.toNat_ofNat_of_lt' h

theorem pieces_encodeChar (c : Char) (rest : Bytes) :
    pieces (String.utf8EncodeChar c ++ rest) = .char c :: pieces rest := by
  have hvalid := toNat_lt_surrogates_or_gt c
  rcases encodeChar_cases c with ⟨h, heq⟩ | ⟨hlow, hhigh, heq⟩ | ⟨hlow, hhigh, heq⟩ |
      ⟨hlow, hhigh, heq⟩
  · have ha := toNat_ofNat_byte (show c.toNat < 0x100 by omega)
    rw [heq, List.singleton_append, pieces_one rest (by omega), ha]
    simp only [assemble, List.foldl_nil, Char.ofNat_toNat]
  · have ha := toNat_ofNat_byte (show 0xC0 + c.toNat / 0x40 < 0x100 by omega)
    have hb := toNat_ofNat_byte (show 0x80 + c.toNat % 0x40 < 0x100 by omega)
    rw [heq, List.cons_append, List.singleton_append, pieces_two rest (by omega) (by omega)
      (secondFits_of_toNat (by omega) (by omega) (by omega) (by omega) (by omega) (by omega)), ha]
    have hn : (0xC0 + c.toNat / 0x40 - 0xC0) * 64 + (0x80 + c.toNat % 0x40 - 0x80) = c.toNat := by
      omega
    simp only [assemble, List.foldl_cons, List.foldl_nil, hb, hn, Char.ofNat_toNat]
  · have ha := toNat_ofNat_byte (show 0xE0 + c.toNat / 0x1000 < 0x100 by omega)
    have hb := toNat_ofNat_byte (show 0x80 + c.toNat / 0x40 % 0x40 < 0x100 by omega)
    have hc := toNat_ofNat_byte (show 0x80 + c.toNat % 0x40 < 0x100 by omega)
    rw [heq, List.cons_append, List.cons_append, List.singleton_append,
      pieces_three rest (by omega) (by omega)
        (secondFits_of_toNat (by omega) (by omega) (by omega) (by omega) (by omega) (by omega))
        (isContinuation_ofNat _), ha]
    have hn : ((0xE0 + c.toNat / 0x1000 - 0xE0) * 64 + (0x80 + c.toNat / 0x40 % 0x40 - 0x80)) * 64 +
        (0x80 + c.toNat % 0x40 - 0x80) = c.toNat := by
      omega
    simp only [assemble, List.foldl_cons, List.foldl_nil, hb, hc, hn, Char.ofNat_toNat]
  · have ha := toNat_ofNat_byte (show 0xF0 + c.toNat / 0x40000 < 0x100 by omega)
    have hb := toNat_ofNat_byte (show 0x80 + c.toNat / 0x1000 % 0x40 < 0x100 by omega)
    have hc := toNat_ofNat_byte (show 0x80 + c.toNat / 0x40 % 0x40 < 0x100 by omega)
    have hd := toNat_ofNat_byte (show 0x80 + c.toNat % 0x40 < 0x100 by omega)
    rw [heq, List.cons_append, List.cons_append, List.cons_append, List.singleton_append,
      pieces_four rest (by omega) (by omega)
        (secondFits_of_toNat (by omega) (by omega) (by omega) (by omega) (by omega) (by omega))
        (isContinuation_ofNat _) (isContinuation_ofNat _), ha]
    have hn : (((0xF0 + c.toNat / 0x40000 - 0xF0) * 64 +
        (0x80 + c.toNat / 0x1000 % 0x40 - 0x80)) * 64 +
        (0x80 + c.toNat / 0x40 % 0x40 - 0x80)) * 64 + (0x80 + c.toNat % 0x40 - 0x80) = c.toNat := by
      omega
    simp only [assemble, List.foldl_cons, List.foldl_nil, hb, hc, hd, hn, Char.ofNat_toNat]

theorem pieces_encode (text : List Char) : pieces (encode text) = text.map .char := by
  induction text with
  | nil => rfl
  | cons c rest ih =>
    rw [encode, List.flatMap_cons, pieces_encodeChar, List.map_cons]
    exact congrArg _ ih

theorem decode_encode (text : List Char) : decode (encode text) = .ok text := by
  rw [decode, pieces_encode]
  generalize 0 = index
  induction text generalizing index with
  | nil => rfl
  | cons c rest ih => rw [List.map_cons, charactersAt, ih]; rfl

theorem decodeLossy_encode (text : List Char) : decodeLossy (encode text) = text := by
  rw [decodeLossy, pieces_encode, List.map_map]
  exact List.map_id text

theorem decode_ofString (s : String) : decode (ofString s) = .ok s.toList :=
  decode_encode s.toList

@[simp] theorem decodeLossy_ofString (s : String) : decodeLossy (ofString s) = s.toList :=
  decodeLossy_encode s.toList

theorem encode_injective {s t : List Char} (h : encode s = encode t) : s = t := by
  rw [← decodeLossy_encode s, ← decodeLossy_encode t, h]

theorem ofString_injective {s t : String} (h : ofString s = ofString t) : s = t :=
  String.toList_injective (encode_injective h)

/-! ### Order -/

/-- A smaller character has smaller bytes, whatever comes after either. -/
theorem encodeChar_append_lt {c d : Char} (h : c < d) (s t : Bytes) :
    String.utf8EncodeChar c ++ s < String.utf8EncodeChar d ++ t := by
  have hlt : c.toNat < d.toNat := h
  have hdiv (n : Nat) : n / 0x40 / 0x40 = n / 0x1000 ∧ n / 0x1000 / 0x40 = n / 0x40000 :=
    ⟨Nat.div_div_eq_div_mul .., Nat.div_div_eq_div_mul ..⟩
  have hc := hdiv c.toNat
  have hd := hdiv d.toNat
  -- The bytes are the digits of the number to the base 64, behind a first byte that tells how many
  -- there are.
  rcases encodeChar_cases c with ⟨_, hcs⟩ | ⟨_, _, hcs⟩ | ⟨_, _, hcs⟩ | ⟨_, _, hcs⟩ <;>
    rcases encodeChar_cases d with ⟨_, hds⟩ | ⟨_, _, hds⟩ | ⟨_, _, hds⟩ | ⟨_, _, hds⟩ <;>
    simp (disch := omega) only [hcs, hds, List.cons_append, List.cons_lt_cons_iff,
      UInt8.lt_iff_toNat_lt, ← UInt8.toNat_inj, toNat_ofNat_byte] <;>
    omega

theorem encode_lt_encode {s t : List Char} (h : s < t) : encode s < encode t := by
  induction h with
  | @nil c t =>
    rw [encode, encode, List.flatMap_nil, List.flatMap_cons]
    have hne : String.utf8EncodeChar c ≠ [] := String.utf8EncodeChar_ne_nil
    cases hc : String.utf8EncodeChar c with
    | nil => exact absurd hc hne
    | cons b bytes => exact List.nil_lt_cons _ _
  | rel hlt => exact encodeChar_append_lt hlt _ _
  | cons _ ih => exact List.append_left_lt ih

/-- Names come in the same order by their code points and by their bytes. -/
theorem ofString_lt_iff {s t : String} : ofString s < ofString t ↔ s < t := by
  constructor
  · intro h
    by_cases hlt : s < t
    · exact hlt
    · by_cases heq : s = t
      · exact absurd (heq ▸ h) (List.lt_irrefl _)
      · have hgt : t < s := Std.lt_of_le_of_ne (Std.not_lt.1 hlt) (Ne.symm heq)
        exact absurd h (List.lt_asymm (encode_lt_encode hgt))
  · exact encode_lt_encode

end SeriesQuery.Utf8
