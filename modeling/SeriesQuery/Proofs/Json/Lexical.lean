import SeriesQuery.Json.Printer
import SeriesQuery.Json.Lexical

/-!
# Strings are read to their closing quote

A character of a string can be spelled in more than one way. Every spelling of a text is read as the
text, and what comes after it is left; the printer chooses one of the spellings. A number, unlike a
string, has no end of its own: a reader finds the end of a value only if the text does not go on
with something that a number could take in. After a value there is a comma, a bracket, white space
or nothing, so it always does.

A reader is a chain of steps of which each may fail. The first lemmas here take such a chain apart.
-/

namespace SeriesQuery

section Except

variable {ε α β : Type} {outcome : Except ε α}

theorem ok_bind (a : α) (next : α → Except ε β) : ((.ok a : Except ε α) >>= next) = next a :=
  rfl

/-- A computation that succeeds has succeeded at its first step. -/
theorem exists_of_bind_eq_ok {next : α → Except ε β} {b : β} (h : (outcome >>= next) = .ok b) :
    ∃ a, outcome = .ok a ∧ next a = .ok b := by
  cases outcome with
  | error e => cases h
  | ok a => exact ⟨a, rfl, h⟩

theorem exists_of_map_eq_ok {f : α → β} {b : β} (h : f <$> outcome = .ok b) :
    ∃ a, outcome = .ok a ∧ f a = b := by
  cases outcome with
  | error e => cases h
  | ok a => exact ⟨a, rfl, Except.ok.inj h⟩

theorem exists_eq_ok_of_isSome (h : outcome.toOption.isSome) : ∃ a, outcome = .ok a := by
  cases outcome with
  | error e => cases h
  | ok a => exact ⟨a, rfl⟩

end Except

namespace Json

theorem exists_of_mapValue_eq_ok {α β : Type} {f : α → β} {outcome : Read (α × List Char)}
    {b : β} {rest : List Char} (h : mapValue f outcome = .ok (b, rest)) :
    ∃ a, outcome = .ok (a, rest) ∧ f a = b := by
  cases outcome with
  | error fault => cases h
  | ok found =>
    obtain ⟨rfl, rfl⟩ := Prod.mk.inj (Except.ok.inj h)
    exact ⟨found.1, rfl, rfl⟩

theorem readWord_of_bind {α : Type} {word text rest : List Char} {value a : α}
    (h : (do return (value, ← readWord word text)) = (.ok (a, rest) : Read (α × List Char))) :
    value = a ∧ readWord word text = .ok rest := by
  obtain ⟨after, hword, h⟩ := exists_of_bind_eq_ok h
  obtain ⟨rfl, rfl⟩ := Prod.mk.inj (Except.ok.inj h)
  exact ⟨rfl, hword⟩

/-- The text does not go on with anything that belongs to a number. -/
def EndsNumber (rest : List Char) : Prop :=
  ∀ c ∈ rest.head?, isDigit c = false ∧ c ≠ '.' ∧ c ≠ 'e' ∧ c ≠ 'E'

/-- The reader takes the text for the value, whatever comes after it. -/
def Reads {α : Type} (reader : List Char → Read (α × List Char)) (text : List Char) (value : α) :
    Prop :=
  ∀ rest, EndsNumber rest → reader (text ++ rest) = .ok (value, rest)

theorem endsNumber_nil : EndsNumber [] := by
  intro c hc
  cases hc

theorem endsNumber_cons {c : Char} (rest : List Char)
    (hc : isDigit c = false ∧ c ≠ '.' ∧ c ≠ 'e' ∧ c ≠ 'E') : EndsNumber (c :: rest) := by
  intro d hd
  obtain rfl : c = d := Option.some.inj hd
  exact hc

/-! ### White space -/

theorem skipSpace_append {gap : List Char} (hgap : ∀ c ∈ gap, isSpace c) (text : List Char) :
    skipSpace (gap ++ text) = skipSpace text := by
  rw [skipSpace, List.dropWhile_append_of_pos hgap, skipSpace]

/-- The reader passes over white space in front of the value. -/
def SkipsSpace {α : Type} (reader : List Char → Read α) : Prop :=
  ∀ gap : List Char, (∀ c ∈ gap, isSpace c) → ∀ text, reader (gap ++ text) = reader text

theorem skipSpace_cons {c : Char} (hc : isSpace c = false) (rest : List Char) :
    skipSpace (c :: rest) = c :: rest := by
  rw [skipSpace, List.dropWhile_cons_of_neg (by simp [hc])]

/-! ### Strings -/

theorem hexValue?_hexDigit {n : Nat} (h : n < 16) : hexValue? (hexDigit n) = some n := by
  have hall : ∀ n < 16, hexValue? (hexDigit n) = some n := by decide
  exact hall n h

/-- How a character is written in a string: behind a backslash, by its number, or as it is. -/
theorem escapeChar_cases (c : Char) :
    (∃ letter, escapeChar c = ['\\', letter] ∧ simpleEscape? letter = some c) ∨
    (c.toNat < 0x20 ∧
      escapeChar c = ['\\', 'u', '0', '0', hexDigit (c.toNat / 16), hexDigit (c.toNat % 16)]) ∨
    (0x20 ≤ c.toNat ∧ c ≠ '"' ∧ c ≠ '\\' ∧ escapeChar c = [c]) := by
  have hofNat (n : Nat) (h : c.toNat = n) : c = Char.ofNat n := by rw [← h, Char.ofNat_toNat]
  unfold escapeChar
  by_cases hquote : c = '"'
  · exact .inl ⟨'"', by rw [if_pos hquote], by rw [hquote]; rfl⟩
  rw [if_neg hquote]
  by_cases hbackslash : c = '\\'
  · exact .inl ⟨'\\', by rw [if_pos hbackslash], by rw [hbackslash]; rfl⟩
  rw [if_neg hbackslash]
  by_cases hnewline : c = '\n'
  · exact .inl ⟨'n', by rw [if_pos hnewline], by rw [hnewline]; rfl⟩
  rw [if_neg hnewline]
  by_cases hreturn : c = '\r'
  · exact .inl ⟨'r', by rw [if_pos hreturn], by rw [hreturn]; rfl⟩
  rw [if_neg hreturn]
  by_cases htab : c = '\t'
  · exact .inl ⟨'t', by rw [if_pos htab], by rw [htab]; rfl⟩
  rw [if_neg htab]
  by_cases hbackspace : c.toNat = 8
  · exact .inl ⟨'b', by rw [if_pos hbackspace], by rw [hofNat 8 hbackspace]; rfl⟩
  rw [if_neg hbackspace]
  by_cases hfeed : c.toNat = 12
  · exact .inl ⟨'f', by rw [if_pos hfeed], by rw [hofNat 12 hfeed]; rfl⟩
  rw [if_neg hfeed]
  by_cases hcontrol : c.toNat < 0x20
  · exact .inr (.inl ⟨hcontrol, by rw [if_pos hcontrol]⟩)
  · exact .inr (.inr ⟨Nat.le_of_not_lt hcontrol, hquote, hbackslash, by rw [if_neg hcontrol]⟩)

theorem hexUnit?_control {n : Nat} (h : n < 0x20) :
    hexUnit? '0' '0' (hexDigit (n / 16)) (hexDigit (n % 16)) = some n := by
  have hzero : hexValue? '0' = some 0 := rfl
  have hhigh := hexValue?_hexDigit (show n / 16 < 16 by omega)
  have hlow := hexValue?_hexDigit (show n % 16 < 16 by omega)
  simp only [hexUnit?, hzero, hhigh, hlow, Option.bind_eq_bind, Option.bind_some, Option.pure_def,
    Option.some.injEq]
  omega

/-- The spellings of a text between quotes: a character stands for itself, behind a backslash, or by
its number, for which it may take two surrogates. -/
inductive Spells : List Char → List Char → Prop where
  | nil : Spells [] []
  | plain {c : Char} {spelling text : List Char} : 0x20 ≤ c.toNat → c ≠ '"' → c ≠ '\\' →
      Spells spelling text → Spells (c :: spelling) (c :: text)
  | escaped {letter c : Char} {spelling text : List Char} : simpleEscape? letter = some c →
      Spells spelling text → Spells ('\\' :: letter :: spelling) (c :: text)
  | unit {x y z w : Char} {n : Nat} {spelling text : List Char} : hexUnit? x y z w = some n →
      isLead n = false → isTrail n = false →
      Spells spelling text →
      Spells ('\\' :: 'u' :: x :: y :: z :: w :: spelling) (Char.ofNat n :: text)
  | pair {x y z w p q r s : Char} {lead trail : Nat} {spelling text : List Char} :
      hexUnit? x y z w = some lead → isLead lead → hexUnit? p q r s = some trail → isTrail trail →
      Spells spelling text →
      Spells ('\\' :: 'u' :: x :: y :: z :: w :: '\\' :: 'u' :: p :: q :: r :: s :: spelling)
        (pairedChar lead trail :: text)

theorem simpleEscape?_ne {letter c : Char} (h : simpleEscape? letter = some c) : letter ≠ 'u' := by
  rintro rfl
  cases h

theorem isTrail_of_isLead {n : Nat} (h : isLead n) : isTrail n = false := by
  simp only [isLead, isTrail, Bool.and_eq_true, decide_eq_true_eq, Bool.and_eq_false_iff,
    decide_eq_false_iff_not] at h ⊢
  omega

/-- Every spelling of a text is read as the text. -/
theorem readText_of_spells {spelling text : List Char} (h : Spells spelling text)
    (rest : List Char) : readText (spelling ++ '"' :: rest) = .ok (text, rest) := by
  induction h with
  | nil => rfl
  | plain hprintable hquote hbackslash _ ih =>
    have hcontrol := Nat.not_lt.2 hprintable
    rw [List.cons_append, readText.eq_def]
    simp [hcontrol, hbackslash, ih, mapValue]
  | escaped hescape _ ih =>
    have hletter := simpleEscape?_ne hescape
    rw [List.cons_append, List.cons_append, readText.eq_def]
    simp [hletter, hescape, ih, mapValue]
  | unit hunit hlead htrail _ ih =>
    simp only [List.cons_append]
    rw [readText.eq_def]
    simp [hunit, hlead, htrail, ih, mapValue]
  | pair hfirst hlead hsecond htrail _ ih =>
    have hnot := isTrail_of_isLead hlead
    simp only [List.cons_append]
    rw [readText.eq_def]
    simp [hfirst, hnot, hlead, hsecond, htrail, ih, mapValue]

theorem spells_escapeChar (c : Char) {spelling text : List Char} (h : Spells spelling text) :
    Spells (escapeChar c ++ spelling) (c :: text) := by
  rcases escapeChar_cases c with ⟨letter, htext, hescape⟩ | ⟨hcontrol, htext⟩ |
      ⟨hprintable, hquote, hbackslash, htext⟩
  · rw [htext]
    exact .escaped hescape h
  · have hlead : isLead c.toNat = false := by simp [isLead]; omega
    have htrail : isTrail c.toNat = false := by simp [isTrail]; omega
    have hspells := Spells.unit (hexUnit?_control hcontrol) hlead htrail h
    rw [Char.ofNat_toNat] at hspells
    rw [htext]
    exact hspells
  · rw [htext]
    exact .plain hprintable hquote hbackslash h

/-- What the printer writes between quotes. -/
theorem spells_printed (text : List Char) : Spells (text.flatMap escapeChar) text := by
  induction text with
  | nil => exact .nil
  | cons c text ih =>
    rw [List.flatMap_cons]
    exact spells_escapeChar c ih

/-- A printed string is read back up to its closing quote. -/
theorem readText_quoted (text rest : List Char) :
    readText (text.flatMap escapeChar ++ '"' :: rest) = .ok (text, rest) :=
  readText_of_spells (spells_printed text) rest

/-- What is read as a text is one of its spellings. -/
theorem spells_of_readText {source text rest : List Char} (h : readText source = .ok (text, rest)) :
    ∃ spelling, source = spelling ++ '"' :: rest ∧ Spells spelling text := by
  fun_induction readText source generalizing text
  case case2 =>
    obtain ⟨rfl, rfl⟩ := Prod.mk.inj (Except.ok.inj h)
    exact ⟨[], rfl, .nil⟩
  case case9 hfirst htrail hlead _ _ _ _ _ _ hsecond hpaired ih =>
    obtain ⟨more, hmore, rfl⟩ := exists_of_mapValue_eq_ok h
    obtain ⟨spelling, rfl, hspells⟩ := ih hmore
    exact ⟨_, rfl, .pair hfirst hlead hsecond hpaired hspells⟩
  case case14 hunit htrail hlead ih =>
    obtain ⟨more, hmore, rfl⟩ := exists_of_mapValue_eq_ok h
    obtain ⟨spelling, rfl, hspells⟩ := ih hmore
    exact ⟨_, rfl, .unit hunit (Bool.eq_false_iff.2 hlead) (Bool.eq_false_iff.2 htrail) hspells⟩
  case case17 hescape ih =>
    obtain ⟨more, hmore, rfl⟩ := exists_of_mapValue_eq_ok h
    obtain ⟨spelling, rfl, hspells⟩ := ih hmore
    exact ⟨_, rfl, .escaped hescape hspells⟩
  case case19 c after hquote hlast _ _ hletter hcontrol ih =>
    have hbackslash : c ≠ '\\' := by
      intro hc
      cases after with
      | nil => exact hlast hc rfl
      | cons letter after => exact hletter letter after hc rfl
    obtain ⟨more, hmore, rfl⟩ := exists_of_mapValue_eq_ok h
    obtain ⟨spelling, rfl, hspells⟩ := ih hmore
    exact ⟨_, rfl, .plain (Nat.not_lt.1 hcontrol) hquote hbackslash hspells⟩
  -- In all other cases the reader finds a flaw.
  all_goals cases h

/-- Every spelling of a text is read as the bytes of the text. -/
theorem readRaw_of_spells {spelling text : List Char} (h : Spells spelling text)
    (rest : List Char) : readRaw (spelling ++ '"' :: rest) = .ok (Utf8.encode text, rest) := by
  induction h with
  | nil => rfl
  | plain _ hquote hbackslash _ ih =>
    rw [List.cons_append, readRaw.eq_def]
    simp [hbackslash, ih, mapValue, Utf8.encode]
  | escaped hescape _ ih =>
    have hletter := simpleEscape?_ne hescape
    rw [List.cons_append, List.cons_append, readRaw.eq_def]
    simp [hletter, hescape, ih, mapValue, Utf8.encode]
  | unit hunit hlead htrail _ ih =>
    simp only [List.cons_append]
    rw [readRaw.eq_def]
    simp [hunit, hlead, htrail, ih, mapValue, Utf8.encode]
  | pair hfirst hlead hsecond htrail _ ih =>
    simp only [List.cons_append]
    rw [readRaw.eq_def]
    simp [hfirst, hlead, hsecond, htrail, ih, mapValue, Utf8.encode]

end Json

end SeriesQuery
