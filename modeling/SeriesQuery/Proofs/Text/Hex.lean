import SeriesQuery.Bytes
import SeriesQuery.Proofs.Json.Lexical
import SeriesQuery.Proofs.Text.Utf8
import SeriesQuery.Text.Pieces

/-!
# Hexadecimal texts

A row of digits denotes the bytes whose lower-case digits it has when its letters are taken as lower
case. No other text denotes bytes, and none denotes two byte strings.
-/

namespace SeriesQuery

theorem toNat_lt_of_hexValue? {c : Char} {n : Nat} (h : hexValue? c = some n) : c.toNat < 128 := by
  unfold hexValue? at h
  split at h
  · rename_i hdigit
    exact Nat.lt_of_le_of_lt hdigit.2 (by decide)
  split at h
  · rename_i hlower
    exact Nat.lt_of_le_of_lt hlower.2 (by decide)
  split at h
  · rename_i hupper
    exact Nat.lt_of_le_of_lt hupper.2 (by decide)
  · cases h

/-- Only ASCII letters have another case. -/
theorem toLower_of_le {c : Char} (h : 128 ≤ c.toNat) : c.toLower = c := by
  refine dif_neg ?_
  rintro ⟨-, hupper⟩
  have hz : c.toNat ≤ 90 := hupper
  omega

theorem toNat_hexDigit_lt {n : Nat} (h : n < 16) : (hexDigit n).toNat < 128 := by
  have hall : ∀ n < 16, (hexDigit n).toNat < 128 := by decide
  exact hall n h

theorem hexValue?_eq_some_iff {c : Char} {n : Nat} :
    hexValue? c = some n ↔ n < 16 ∧ c.toLower = hexDigit n := by
  rcases Nat.lt_or_ge c.toNat 128 with hc | hc
  · have hread : ∀ n < 16, hexValue? c = some n ↔ c.toLower = hexDigit n :=
      Utf8.forall_ascii hc (by decide +kernel)
    have hbound : ∀ n ∈ hexValue? c, n < 16 := Utf8.forall_ascii hc (by decide +kernel)
    exact ⟨fun h => ⟨hbound n h, (hread n (hbound n h)).1 h⟩, fun h => (hread n h.1).2 h.2⟩
  · constructor
    · intro h
      have hlt := toNat_lt_of_hexValue? h
      omega
    · rintro ⟨hn, hlower⟩
      rw [toLower_of_le hc] at hlower
      have hlt := toNat_hexDigit_lt hn
      rw [← hlower] at hlt
      omega

/-- A decimal digit, or one of six letters in either case. -/
def IsHexDigit (c : Char) : Prop :=
  '0' ≤ c ∧ c ≤ '9' ∨ 'a' ≤ c ∧ c ≤ 'f' ∨ 'A' ≤ c ∧ c ≤ 'F'

theorem exists_hexValue?_iff {c : Char} : (∃ n, hexValue? c = some n) ↔ IsHexDigit c := by
  rw [hexValue?, IsHexDigit]
  split
  · simp [*]
  split
  · simp [*]
  split <;> simp [*]

namespace Bytes

theorem hexDigits_cons (b : UInt8) (rest : Bytes) :
    hexDigits (b :: rest) = hexDigit (b.toNat / 16) :: hexDigit (b.toNat % 16) :: hexDigits rest :=
  rfl

theorem length_hexDigits (bytes : Bytes) : bytes.hexDigits.length = 2 * bytes.length := by
  induction bytes with
  | nil => rfl
  | cons b rest ih =>
    simp only [hexDigits_cons, List.length_cons, ih]
    omega

/-- The two halves of a byte. -/
theorem ofNat_eq_iff {high low : Nat} (hhigh : high < 16) (hlow : low < 16) {b : UInt8} :
    UInt8.ofNat (16 * high + low) = b ↔ high = b.toNat / 16 ∧ low = b.toNat % 16 := by
  have hn : (UInt8.ofNat (16 * high + low)).toNat = 16 * high + low :=
    UInt8.toNat_ofNat_of_lt' (by simp [UInt8.size]; omega)
  rw [← UInt8.toNat_inj, hn]
  omega

theorem ofHexDigits?_cons_eq_some_iff {high low : Char} {rest : List Char} {b : UInt8}
    {bytes : Bytes} :
    ofHexDigits? (high :: low :: rest) = some (b :: bytes) ↔
      hexValue? high = some (b.toNat / 16) ∧ hexValue? low = some (b.toNat % 16) ∧
        ofHexDigits? rest = some bytes := by
  rw [ofHexDigits?]
  simp only [Option.bind_eq_bind, Option.bind_eq_some_iff, Option.pure_def, Option.some.injEq,
    List.cons.injEq]
  constructor
  · rintro ⟨h, hhigh, l, hlow, found, hfound, hb, rfl⟩
    obtain ⟨rfl, rfl⟩ := (ofNat_eq_iff (hexValue?_eq_some_iff.1 hhigh).1
      (hexValue?_eq_some_iff.1 hlow).1).1 hb
    exact ⟨hhigh, hlow, hfound⟩
  · rintro ⟨hhigh, hlow, hrest⟩
    have hb := (ofNat_eq_iff (hexValue?_eq_some_iff.1 hhigh).1
      (hexValue?_eq_some_iff.1 hlow).1).2 ⟨rfl, rfl⟩
    exact ⟨_, hhigh, _, hlow, bytes, hrest, hb, rfl⟩

theorem ofHexDigits?_eq_some_iff {digits : List Char} {bytes : Bytes} :
    ofHexDigits? digits = some bytes ↔ digits.map Char.toLower = bytes.hexDigits := by
  induction bytes generalizing digits with
  | nil =>
    match digits with
    | [] => simp [ofHexDigits?, hexDigits]
    | [c] => simp [ofHexDigits?, hexDigits]
    | high :: low :: rest => simp [ofHexDigits?, hexDigits, Option.bind_eq_some_iff]
  | cons b bytes ih =>
    have hb := b.toNat_lt
    match digits with
    | [] => simp [ofHexDigits?, hexDigits]
    | [c] => simp [ofHexDigits?, hexDigits]
    | high :: low :: rest =>
      rw [ofHexDigits?_cons_eq_some_iff, hexValue?_eq_some_iff, hexValue?_eq_some_iff, ih,
        hexDigits_cons, List.map_cons, List.map_cons, List.cons.injEq, List.cons.injEq]
      have hhigh : b.toNat / 16 < 16 := by omega
      have hlow : b.toNat % 16 < 16 := by omega
      simp only [hhigh, hlow, true_and]

theorem exists_ofHexDigits?_cons_iff {high low : Char} {rest : List Char} :
    (∃ bytes, ofHexDigits? (high :: low :: rest) = some bytes) ↔
      (∃ n, hexValue? high = some n) ∧ (∃ n, hexValue? low = some n) ∧
        ∃ bytes, ofHexDigits? rest = some bytes := by
  constructor
  · rintro ⟨bytes, h⟩
    simp only [ofHexDigits?, Option.bind_eq_bind, Option.bind_eq_some_iff] at h
    obtain ⟨n, hhigh, m, hlow, tail, hrest, -⟩ := h
    exact ⟨⟨n, hhigh⟩, ⟨m, hlow⟩, ⟨tail, hrest⟩⟩
  · rintro ⟨⟨n, hhigh⟩, ⟨m, hlow⟩, ⟨tail, hrest⟩⟩
    exact ⟨UInt8.ofNat (16 * n + m) :: tail, by simp [ofHexDigits?, hhigh, hlow, hrest]⟩

/-- A text denotes bytes when it is a row of pairs of digits. -/
theorem exists_ofHexDigits?_iff {digits : List Char} :
    (∃ bytes, ofHexDigits? digits = some bytes) ↔
      digits.length % 2 = 0 ∧ ∀ c ∈ digits, IsHexDigit c := by
  induction digits using ofHexDigits?.induct with
  | case1 => simp [ofHexDigits?]
  | case2 c => simp [ofHexDigits?]
  | case3 high low rest ih =>
    have hlength : (high :: low :: rest).length % 2 = rest.length % 2 := Nat.add_mod_right _ 2
    rw [exists_ofHexDigits?_cons_iff, exists_hexValue?_iff, exists_hexValue?_iff, ih, hlength,
      List.forall_mem_cons, List.forall_mem_cons]
    simp only [and_left_comm]

theorem exists_of_mem_hexDigits {c : Char} {bytes : Bytes} (h : c ∈ bytes.hexDigits) :
    ∃ n < 16, c = hexDigit n := by
  obtain ⟨b, -, hc⟩ := List.mem_flatMap.1 h
  have hb := b.toNat_lt
  simp only [List.mem_cons, List.not_mem_nil, or_false] at hc
  rcases hc with rfl | rfl
  · exact ⟨_, by omega, rfl⟩
  · exact ⟨_, by omega, rfl⟩

/-- The digits of a byte string are lower case already. -/
theorem map_toLower_hexDigits (bytes : Bytes) :
    bytes.hexDigits.map Char.toLower = bytes.hexDigits := by
  have hlower : ∀ c ∈ bytes.hexDigits, c.toLower = c := by
    intro c hc
    obtain ⟨n, hn, rfl⟩ := exists_of_mem_hexDigits hc
    exact (hexValue?_eq_some_iff.1 (Json.hexValue?_hexDigit hn)).2
  exact (List.map_congr_left hlower).trans (List.map_id _)

end Bytes

theorem isBlank_of_hexValue? {c : Char} {n : Nat} (h : hexValue? c = some n) :
    isBlank c = false := by
  have hblank : (hexValue? c).isSome → isBlank c = false :=
    Utf8.forall_ascii (toNat_lt_of_hexValue? h) (by decide +kernel)
  rw [h] at hblank
  exact hblank rfl

end SeriesQuery
