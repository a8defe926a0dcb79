import Mathlib.Data.List.TakeWhile
import SeriesQuery.Proofs.Json.Extent

/-!
# The grammar of JSON

What a JSON text is, said without a reader. A phrase stands between two places of a text: it begins
with the one text and leaves the other. White space may stand before each word and each mark.
Digits are taken as far as they go, so no place but one is the end of a value. The readers that skip
numbers and strings take exactly those of this grammar.
-/

namespace SeriesQuery.Json

/-- White space, as much as there is or less, and what is left behind it. -/
def Gap (text rest : List Char) : Prop :=
  ∃ gap, (∀ c ∈ gap, isSpace c) ∧ text = gap ++ rest

def Digits (text rest : List Char) : Prop :=
  ∃ digits, digits ≠ [] ∧ (∀ c ∈ digits, isDigit c) ∧ StopsAt isDigit rest ∧ text = digits ++ rest

/-- Digits of which the first is no zero, or a zero alone. -/
def Whole (text rest : List Char) : Prop :=
  ∃ digits, IsNumeral digits ∧ StopsAt isDigit rest ∧ text = digits ++ rest

/-- An exponent, which may be missing. -/
inductive Power : List Char → List Char → Prop where
  | none {rest : List Char} : rest.head? ≠ some 'e' → rest.head? ≠ some 'E' → Power rest rest
  | some {mark : Char} {sign digits rest : List Char} : mark = 'e' ∨ mark = 'E' →
      sign ∈ [[], ['+'], ['-']] → Digits digits rest → Power (mark :: (sign ++ digits)) rest

/-- A number without its sign. -/
inductive Unsigned : List Char → List Char → Prop where
  | whole {text behind rest : List Char} : Whole text behind → behind.head? ≠ some '.' →
      Power behind rest → Unsigned text rest
  | fraction {text places behind rest : List Char} : Whole text ('.' :: places) →
      Digits places behind → Power behind rest → Unsigned text rest

/-- A string from behind its opening quote. Surrogates need no partner. -/
inductive Literal : List Char → List Char → Prop where
  | close {rest : List Char} : Literal ('"' :: rest) rest
  | plain {c : Char} {text rest : List Char} : 0x20 ≤ c.toNat → c ≠ '"' → c ≠ '\\' →
      Literal text rest → Literal (c :: text) rest
  | escaped {letter c : Char} {text rest : List Char} : simpleEscape? letter = some c →
      Literal text rest → Literal ('\\' :: letter :: text) rest
  | unit {x y z w : Char} {n : Nat} {text rest : List Char} : hexUnit? x y z w = some n →
      Literal text rest → Literal ('\\' :: 'u' :: x :: y :: z :: w :: text) rest

/-- A member where it stands in a text: from behind the opening quote of its key, from behind its
colon, and from behind its value. -/
structure Member where
  key : List Char
  value : List Char
  rest : List Char

/-- Items and members begin behind the opening bracket, or behind one of them. -/
inductive Phrase where
  | value
  | items (first : Bool)
  | members (first : Bool) (listed : List Member)

/-- Between two items or members there is a comma. -/
def Opens (first : Bool) (text rest : List Char) : Prop :=
  if first then text = rest else Gap text (',' :: rest)

inductive Derives : Phrase → List Char → List Char → Prop where
  | null {text rest : List Char} : Gap text ('n' :: 'u' :: 'l' :: 'l' :: rest) →
      Derives .value text rest
  | yes {text rest : List Char} : Gap text ('t' :: 'r' :: 'u' :: 'e' :: rest) →
      Derives .value text rest
  | no {text rest : List Char} : Gap text ('f' :: 'a' :: 'l' :: 's' :: 'e' :: rest) →
      Derives .value text rest
  | positive {text digits rest : List Char} : Gap text digits → Unsigned digits rest →
      Derives .value text rest
  | negative {text digits rest : List Char} : Gap text ('-' :: digits) → Unsigned digits rest →
      Derives .value text rest
  | string {text quoted rest : List Char} : Gap text ('"' :: quoted) → Literal quoted rest →
      Derives .value text rest
  | array {text body rest : List Char} : Gap text ('[' :: body) → Derives (.items true) body rest →
      Derives .value text rest
  | object {text body rest : List Char} {listed : List Member} : Gap text ('{' :: body) →
      Derives (.members true listed) body rest → Derives .value text rest
  | noItem {first : Bool} {text rest : List Char} : Gap text (']' :: rest) →
      Derives (.items first) text rest
  | item {first : Bool} {text value behind rest : List Char} : Opens first text value →
      Derives .value value behind → Derives (.items false) behind rest →
      Derives (.items first) text rest
  | noMember {first : Bool} {text rest : List Char} : Gap text ('}' :: rest) →
      Derives (.members first []) text rest
  | member {first : Bool} {m : Member} {text key colon rest : List Char} {listed : List Member} :
      Opens first text key → Gap key ('"' :: m.key) → Literal m.key colon →
      Gap colon (':' :: m.value) → Derives .value m.value m.rest →
      Derives (.members false listed) m.rest rest → Derives (.members first (m :: listed)) text rest

/-- The text begins with a value, and this is what is left behind it. -/
def Value (text rest : List Char) : Prop := Derives .value text rest

/-- The text begins with an object that has these members in this order. -/
def Object (text : List Char) (members : List Member) (rest : List Char) : Prop :=
  ∃ body, Gap text ('{' :: body) ∧ Derives (.members true members) body rest

/-- The text is a value with white space around it. -/
def IsText (text : List Char) : Prop :=
  ∃ rest, Value text rest ∧ ∀ c ∈ rest, isSpace c

/-! ### Words and numbers -/

section Words

variable {text rest : List Char}

theorem gap_skipSpace (text : List Char) : Gap text (skipSpace text) :=
  ⟨text.takeWhile isSpace, List.all_eq_true.1 List.all_takeWhile,
    (List.takeWhile_append_dropWhile (p := isSpace)).symm⟩

theorem Gap.refl (text : List Char) : Gap text text :=
  ⟨[], List.forall_mem_nil _, rfl⟩

theorem Gap.trans {behind : List Char} (h : Gap text behind) (hbehind : Gap behind rest) :
    Gap text rest := by
  obtain ⟨first, hfirst, rfl⟩ := h
  obtain ⟨second, hsecond, rfl⟩ := hbehind
  exact ⟨first ++ second, List.forall_mem_append.2 ⟨hfirst, hsecond⟩,
    (List.append_assoc first second rest).symm⟩

theorem gap_cons_iff {c : Char} (hc : isSpace c = false) :
    Gap text (c :: rest) ↔ skipSpace text = c :: rest := by
  constructor
  · rintro ⟨gap, hgap, rfl⟩
    rw [skipSpace_append hgap, skipSpace_cons hc]
  · intro h
    exact h ▸ gap_skipSpace text

theorem digits_iff :
    Digits text rest ↔ text.takeWhile isDigit ≠ [] ∧ text.dropWhile isDigit = rest := by
  constructor
  · rintro ⟨digits, hne, hdigits, hrest, rfl⟩
    obtain ⟨htake, hdrop⟩ := span_append hdigits hrest
    exact ⟨by rwa [htake], hdrop⟩
  · rintro ⟨hne, rfl⟩
    exact ⟨_, hne, List.all_eq_true.1 List.all_takeWhile, stopsAt_dropWhile _ _,
      (List.takeWhile_append_dropWhile (p := isDigit)).symm⟩

theorem whole_cons_iff {c : Char} {after : List Char} :
    Whole (c :: after) rest ↔ isDigit c ∧ ¬(c = '0' ∧ after.head?.any isDigit) ∧
      (c :: after).dropWhile isDigit = rest := by
  constructor
  · rintro ⟨digits, hdigits, hrest, htext⟩
    cases digits with
    | nil => exact absurd rfl hdigits.nonempty
    | cons d front =>
      obtain ⟨rfl, rfl⟩ := List.cons.inj htext
      exact ⟨hdigits.digit c List.mem_cons_self, hdigits.not_digit_behind_zero hrest,
        (span_append hdigits.digit hrest).2⟩
  · rintro ⟨hc, hzero, rfl⟩
    refine ⟨(c :: after).takeWhile isDigit, ⟨List.all_eq_true.1 List.all_takeWhile, ?_, ?_⟩,
      stopsAt_dropWhile _ _, (List.takeWhile_append_dropWhile (p := isDigit)).symm⟩
    · rw [List.takeWhile_cons_of_pos hc]
      exact List.cons_ne_nil _ _
    · intro front hfront
      rw [List.takeWhile_cons_of_pos hc] at hfront
      obtain ⟨rfl, rfl⟩ := List.cons.inj hfront
      cases after with
      | nil => rfl
      | cons d after =>
        have hd : ¬isDigit d := fun hd => hzero ⟨rfl, hd⟩
        rw [List.takeWhile_cons_of_neg hd]

theorem Digits.exists_cons (h : Digits text rest) :
    ∃ c after, text = c :: after ∧ isDigit c := by
  obtain ⟨digits, hne, hdigits, _, rfl⟩ := h
  obtain ⟨c, front, rfl⟩ := List.exists_cons_of_ne_nil hne
  exact ⟨c, front ++ rest, rfl, hdigits c List.mem_cons_self⟩

/-- What is left behind a sign, if there is one. -/
def behindSign : List Char → List Char
  | '+' :: rest | '-' :: rest => rest
  | rest => rest

/-- Skips the digits of an exponent. -/
def skipDigits : List Char → Read (List Char)
  | [] => .error (.here .badNumber [])
  | c :: rest =>
    if isDigit c then .ok (rest.dropWhile isDigit) else .error (.next .badNumber (c :: rest))

theorem skipDigits_eq_ok_iff : skipDigits text = .ok rest ↔ Digits text rest := by
  rw [digits_iff]
  cases text with
  | nil => simp [skipDigits]
  | cons c after => by_cases hc : isDigit c <;> simp [skipDigits, hc]

/-- The sign of an exponent is seen by its first character. -/
theorem exists_sign_iff :
    (∃ sign ∈ [[], ['+'], ['-']], ∃ digits, text = sign ++ digits ∧ Digits digits rest) ↔
      Digits (behindSign text) rest := by
  rw [behindSign.eq_def]
  constructor
  · rintro ⟨sign, hsign, digits, rfl, hdigits⟩
    obtain ⟨c, after, rfl, hc⟩ := hdigits.exists_cons
    have hplus : c ≠ '+' := isDigit_ne hc (by decide)
    have hminus : c ≠ '-' := isDigit_ne hc (by decide)
    simp only [List.mem_cons, List.not_mem_nil, or_false] at hsign
    rcases hsign with rfl | rfl | rfl
    · simpa [hplus, hminus] using hdigits
    · exact hdigits
    · exact hdigits
  · intro h
    split at h
    · exact ⟨['+'], by decide, _, rfl, h⟩
    · exact ⟨['-'], by decide, _, rfl, h⟩
    · exact ⟨[], by decide, _, rfl, h⟩

theorem skipExponent_eq_ok_iff : skipExponent text = .ok rest ↔
    ∃ sign ∈ [[], ['+'], ['-']], ∃ digits, text = sign ++ digits ∧ Digits digits rest := by
  have hskip : skipExponent text = skipDigits (behindSign text) := rfl
  rw [hskip, skipDigits_eq_ok_iff, exists_sign_iff]

/-- Skips an exponent if there is one. -/
def skipPower : List Char → Read (List Char)
  | 'e' :: rest | 'E' :: rest => skipExponent rest
  | rest => .ok rest

theorem skipPower_eq_ok_iff : skipPower text = .ok rest ↔ Power text rest := by
  constructor
  · intro h
    rw [skipPower.eq_def] at h
    split at h
    · obtain ⟨sign, hsign, digits, rfl, hdigits⟩ := skipExponent_eq_ok_iff.1 h
      exact .some (.inl rfl) hsign hdigits
    · obtain ⟨sign, hsign, digits, rfl, hdigits⟩ := skipExponent_eq_ok_iff.1 h
      exact .some (.inr rfl) hsign hdigits
    · rename_i hlower hupper
      obtain rfl := Except.ok.inj h
      refine .none (fun hhead => ?_) (fun hhead => ?_)
      · obtain ⟨more, rfl⟩ := List.head?_eq_some_iff.1 hhead
        exact hlower more rfl
      · obtain ⟨more, rfl⟩ := List.head?_eq_some_iff.1 hhead
        exact hupper more rfl
  · intro h
    cases h with
    | none hlower hupper =>
      rw [skipPower.eq_def]
      split
      · exact absurd rfl hlower
      · exact absurd rfl hupper
      · rfl
    | some hmark hsign hdigits =>
      rcases hmark with rfl | rfl
      all_goals exact skipExponent_eq_ok_iff.2 ⟨_, hsign, _, rfl, hdigits⟩

theorem skipFraction_eq_ok_iff :
    skipFraction text = .ok rest ↔ ∃ behind, Digits text behind ∧ Power behind rest := by
  have hskip : skipFraction text = if text.takeWhile isDigit = [] then
      .error (.next .badNumber (text.dropWhile isDigit))
      else skipPower (text.dropWhile isDigit) := by
    rw [skipFraction, skipPower.eq_def]
    cases text.takeWhile isDigit with
    | nil => rfl
    | cons c digits =>
      rw [if_neg (List.cons_ne_nil c digits)]
      split <;> simp_all
  simp only [digits_iff, and_assoc, exists_and_left, exists_eq_left', ← skipPower_eq_ok_iff]
  rw [hskip]
  by_cases hempty : text.takeWhile isDigit = []
  · simp [hempty]
  · simp [hempty]

theorem skipNumber_cons (c : Char) (after : List Char) :
    skipNumber (c :: after) =
      if !isDigit c then .error (.next .badNumber (c :: after))
      else if c = '0' ∧ after.head?.any isDigit then .error (.next .badNumber after)
      else
        match (c :: after).dropWhile isDigit with
        | '.' :: places => skipFraction places
        | behind => skipPower behind := by
  rw [skipNumber]
  simp only [skipPower.eq_def]
  split
  · rfl
  split
  · rfl
  split <;> simp_all

theorem skipNumber_eq_ok_iff : skipNumber text = .ok rest ↔ Unsigned text rest := by
  constructor
  · intro h
    cases text with
    | nil => cases h
    | cons c after =>
      rw [skipNumber_cons] at h
      split at h
      · cases h
      rename_i hdigit
      split at h
      · cases h
      rename_i hzero
      have hc : isDigit c := by simpa using hdigit
      split at h
      · rename_i places hbehind
        obtain ⟨behind, hplaces, hpower⟩ := skipFraction_eq_ok_iff.1 h
        exact .fraction (whole_cons_iff.2 ⟨hc, hzero, hbehind⟩) hplaces hpower
      · rename_i hpoint
        refine .whole (whole_cons_iff.2 ⟨hc, hzero, rfl⟩) (fun hhead => ?_)
          (skipPower_eq_ok_iff.1 h)
        obtain ⟨places, hplaces⟩ := List.head?_eq_some_iff.1 hhead
        exact hpoint places hplaces
  · intro h
    have hwhole : ∃ behind, Whole text behind := by
      cases h with
      | whole hwhole _ _ | fraction hwhole _ _ => exact ⟨_, hwhole⟩
    cases text with
    | nil =>
      obtain ⟨behind, digits, hdigits, _, htext⟩ := hwhole
      exact absurd (List.append_eq_nil_iff.1 htext.symm).1 hdigits.nonempty
    | cons c after =>
      obtain ⟨_, hwhole⟩ := hwhole
      obtain ⟨hc, hzero, _⟩ := whole_cons_iff.1 hwhole
      rw [skipNumber_cons, hc, if_neg (by decide), if_neg hzero]
      cases h with
      | whole hwhole hpoint hpower =>
        rw [(whole_cons_iff.1 hwhole).2.2]
        split
        · exact absurd rfl hpoint
        · exact skipPower_eq_ok_iff.2 hpower
      | fraction hwhole hplaces hpower =>
        rw [(whole_cons_iff.1 hwhole).2.2]
        exact skipFraction_eq_ok_iff.2 ⟨_, hplaces, hpower⟩

end Words

/-! ### Strings -/

theorem skipText_eq_ok_iff {text rest : List Char} :
    skipText text = .ok rest ↔ Literal text rest := by
  constructor
  · intro h
    fun_induction skipText text
    case case2 =>
      obtain rfl := Except.ok.inj h
      exact .close
    case case5 hunit ih => exact .unit hunit (ih h)
    case case8 hescape ih => exact .escaped hescape (ih h)
    case case10 c after hquote hlast _ _ hletter hcontrol ih =>
      have hbackslash : c ≠ '\\' := by
        intro hc
        cases after with
        | nil => exact hlast hc rfl
        | cons letter after => exact hletter letter after hc rfl
      exact .plain (Nat.not_lt.1 hcontrol) hquote hbackslash (ih h)
    -- In all other cases the reader finds a flaw.
    all_goals cases h
  · intro h
    induction h with
    | close => rfl
    | plain hprintable hquote hbackslash _ ih =>
      have hcontrol := Nat.not_lt.2 hprintable
      rw [skipText.eq_def]
      simp [hcontrol, hbackslash, ih]
    | escaped hescape _ ih =>
      have hletter := simpleEscape?_ne hescape
      rw [skipText.eq_def]
      simp [hletter, hescape, ih]
    | unit hunit _ ih =>
      rw [skipText.eq_def]
      simp [hunit, ih]

theorem Literal.rest_eq {text rest left : List Char} (h : Literal text rest)
    (hleft : Literal text left) : left = rest :=
  Except.ok.inj ((skipText_eq_ok_iff.2 hleft).symm.trans (skipText_eq_ok_iff.2 h))

/-! ### Lengths -/

section Lengths

variable {text rest : List Char}

theorem Gap.length_le (h : Gap text rest) : rest.length ≤ text.length := by
  obtain ⟨gap, _, rfl⟩ := h
  simp

theorem Digits.length_lt (h : Digits text rest) : rest.length < text.length := by
  obtain ⟨digits, hne, _, _, rfl⟩ := h
  have hpos := List.length_pos_of_ne_nil hne
  simp only [List.length_append]
  omega

theorem Whole.length_lt (h : Whole text rest) : rest.length < text.length := by
  obtain ⟨digits, hdigits, hrest, rfl⟩ := h
  exact Digits.length_lt ⟨digits, hdigits.nonempty, hdigits.digit, hrest, rfl⟩

theorem Power.length_le (h : Power text rest) : rest.length ≤ text.length := by
  cases h with
  | none => exact Nat.le_refl _
  | some _ _ hdigits =>
    have hlength := hdigits.length_lt
    simp only [List.length_cons, List.length_append]
    omega

theorem Unsigned.length_lt (h : Unsigned text rest) : rest.length < text.length := by
  cases h with
  | whole hwhole _ hpower => exact Nat.lt_of_le_of_lt hpower.length_le hwhole.length_lt
  | fraction hwhole hplaces hpower =>
    have hbehind := Nat.lt_of_le_of_lt hpower.length_le hplaces.length_lt
    have hlength := hwhole.length_lt
    rw [List.length_cons] at hlength
    omega

theorem Literal.length_lt (h : Literal text rest) : rest.length < text.length := by
  induction h with
  | close => simp
  | plain _ _ _ _ ih | escaped _ _ ih | unit _ _ ih =>
    simp only [List.length_cons]
    omega

theorem Opens.length_le {first : Bool} (h : Opens first text rest) :
    rest.length ≤ text.length := by
  cases first with
  | true => exact Nat.le_of_eq (congrArg List.length h.symm)
  | false =>
    have hlength := Gap.length_le h
    rw [List.length_cons] at hlength
    omega

/-- A phrase is never empty. -/
theorem Derives.length_lt {p : Phrase} (h : Derives p text rest) : rest.length < text.length := by
  induction h with
  | null hgap | yes hgap | no hgap | noItem hgap | noMember hgap =>
    have hlength := hgap.length_le
    simp only [List.length_cons] at hlength
    omega
  | positive hgap hnumber => exact Nat.lt_of_lt_of_le hnumber.length_lt hgap.length_le
  | negative hgap hnumber =>
    have hlength := hgap.length_le
    have hdigits := hnumber.length_lt
    rw [List.length_cons] at hlength
    omega
  | string hgap hliteral =>
    have hlength := hgap.length_le
    have hquoted := hliteral.length_lt
    rw [List.length_cons] at hlength
    omega
  | array hgap _ ih | object hgap _ ih =>
    have hlength := hgap.length_le
    rw [List.length_cons] at hlength
    omega
  | item hopens _ _ ih ihs =>
    have hlength := hopens.length_le
    omega
  | member hopens hkey hliteral hcolon _ _ ih ihs =>
    have hlength := hopens.length_le
    have hquoted := hkey.length_le
    have hname := hliteral.length_lt
    have hvalue := hcolon.length_le
    rw [List.length_cons] at hquoted hvalue
    omega

end Lengths

end SeriesQuery.Json
