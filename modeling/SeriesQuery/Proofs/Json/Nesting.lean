import SeriesQuery.Proofs.Json.Grammar

/-!
# Values are skipped along the grammar

The reader that skips values takes exactly the values of the grammar, however deep they are. What it
skips is derived bracket by bracket; in the other direction, each step of a derivation is a step of
the reader, and the length of the text is enough for the depth. So a value has one end.
-/

namespace SeriesQuery.Json

theorem readWord_eq_ok_iff {word text rest : List Char} :
    readWord word text = .ok rest ↔ text = word ++ rest := by
  induction word generalizing text with
  | nil => simp [readWord]
  | cons c word ih =>
    cases text with
    | nil => simp [readWord]
    | cons d text =>
      rw [readWord]
      by_cases hd : d = c
      · simp [hd, ih]
      · simp [hd]

theorem readColon_eq_ok_iff {text rest : List Char} :
    readColon text = .ok rest ↔ Gap text (':' :: rest) := by
  rw [gap_cons_iff (by decide), readColon]
  constructor
  · intro h
    split at h
    · cases h
    · rename_i heq
      rw [heq, Except.ok.inj h]
    · cases h
  · intro h
    rw [h]
    rfl

theorem derives_of_skipItemsFrom {skip : List Char → Read (List Char)}
    (h : ∀ {text rest}, skip text = .ok rest → Value text rest) {bound : Nat}
    {text rest : List Char} (hskip : skipItemsFrom skip bound text = .ok rest) :
    Derives (.items false) text rest := by
  induction bound generalizing text with
  | zero => cases hskip
  | succ bound ih =>
    rw [skipItemsFrom] at hskip
    split at hskip
    · cases hskip
    · rename_i heq
      obtain rfl := Except.ok.inj hskip
      exact .noItem ((gap_cons_iff (by decide)).2 heq)
    · rename_i heq
      obtain ⟨behind, hvalue, hskip⟩ := exists_of_bind_eq_ok hskip
      exact .item ((gap_cons_iff (by decide)).2 heq) (h hvalue) (ih hskip)
    · cases hskip

/-- What skipping a member tells about it. -/
theorem exists_member_of_skipMember {skip : List Char → Read (List Char)}
    (h : ∀ {text rest}, skip text = .ok rest → Value text rest) {text rest : List Char}
    (hskip : skipMember skip text = .ok rest) :
    ∃ quoted after body, Gap text ('"' :: quoted) ∧ Literal quoted after ∧
      Gap after (':' :: body) ∧ Value body rest := by
  rw [skipMember] at hskip
  split at hskip
  · cases hskip
  · rename_i quoted heq
    obtain ⟨after, hquoted, hskip⟩ := exists_of_bind_eq_ok hskip
    obtain ⟨body, hcolon, hvalue⟩ := exists_of_bind_eq_ok hskip
    exact ⟨quoted, after, body, (gap_cons_iff (by decide)).2 heq, skipText_eq_ok_iff.1 hquoted,
      readColon_eq_ok_iff.1 hcolon, h hvalue⟩
  · cases hskip

theorem derives_of_skipMembersFrom {skip : List Char → Read (List Char)}
    (h : ∀ {text rest}, skip text = .ok rest → Value text rest) {bound : Nat}
    {text rest : List Char} (hskip : skipMembersFrom skip bound text = .ok rest) :
    ∃ listed, Derives (.members false listed) text rest := by
  induction bound generalizing text with
  | zero => cases hskip
  | succ bound ih =>
    rw [skipMembersFrom] at hskip
    split at hskip
    · cases hskip
    · rename_i heq
      obtain rfl := Except.ok.inj hskip
      exact ⟨[], .noMember ((gap_cons_iff (by decide)).2 heq)⟩
    · rename_i heq
      obtain ⟨behind, hmember, hskip⟩ := exists_of_bind_eq_ok hskip
      obtain ⟨quoted, after, body, hkey, hliteral, hcolon, hvalue⟩ :=
        exists_member_of_skipMember h hmember
      obtain ⟨listed, hlisted⟩ := ih hskip
      exact ⟨⟨quoted, body, behind⟩ :: listed,
        .member ((gap_cons_iff (by decide)).2 heq) hkey hliteral hcolon hvalue hlisted⟩
    · cases hskip

section Nested

variable {bound : Nat} {text body rest : List Char}

theorem derives_of_skipNested_bracket
    (h : ∀ {text rest}, skipNested bound text = .ok rest → Value text rest)
    (hskip : skipNested (bound + 1) ('[' :: body) = .ok rest) :
    Derives (.items true) body rest := by
  rw [skipNested.eq_def, skipSpace_cons (by decide)] at hskip
  simp only at hskip
  split at hskip
  · cases hskip
  · rename_i heq
    obtain rfl := Except.ok.inj hskip
    exact .noItem ((gap_cons_iff (by decide)).2 heq)
  · obtain ⟨behind, hvalue, hskip⟩ := exists_of_bind_eq_ok hskip
    rw [(skipsSpace_skipNested bound).skipSpace_eq] at hvalue
    exact .item rfl (h hvalue) (derives_of_skipItemsFrom h hskip)

theorem derives_of_skipNested_brace
    (h : ∀ {text rest}, skipNested bound text = .ok rest → Value text rest)
    (hskip : skipNested (bound + 1) ('{' :: body) = .ok rest) :
    ∃ listed, Derives (.members true listed) body rest := by
  rw [skipNested.eq_def, skipSpace_cons (by decide)] at hskip
  simp only at hskip
  split at hskip
  · cases hskip
  · rename_i heq
    obtain rfl := Except.ok.inj hskip
    exact ⟨[], .noMember ((gap_cons_iff (by decide)).2 heq)⟩
  · obtain ⟨behind, hmember, hskip⟩ := exists_of_bind_eq_ok hskip
    obtain ⟨quoted, after, value, hkey, hliteral, hcolon, hvalue⟩ :=
      exists_member_of_skipMember h hmember
    obtain ⟨listed, hlisted⟩ := derives_of_skipMembersFrom h hskip
    exact ⟨⟨quoted, value, behind⟩ :: listed,
      .member rfl ((gap_skipSpace body).trans hkey) hliteral hcolon hvalue hlisted⟩

/-- What is skipped is a value. -/
theorem value_of_skipNested (h : skipNested bound text = .ok rest) : Value text rest := by
  induction bound using Nat.strongRecOn generalizing text rest with
  | ind bound ih =>
    have hgap := gap_skipSpace text
    have hbehind : skipNested bound (skipSpace text) = .ok rest := by
      rw [(skipsSpace_skipNested bound).skipSpace_eq, h]
    rw [skipNested.eq_def] at h
    split at h
    case h_1 => cases h
    case h_2 | h_3 | h_4 =>
      rename_i heq
      rw [heq, readWord_eq_ok_iff.1 h] at hgap
      first | exact .null hgap | exact .yes hgap | exact .no hgap
    case h_5 heq => exact .negative (heq ▸ hgap) (skipNumber_eq_ok_iff.1 h)
    case h_6 heq => exact .string (heq ▸ hgap) (skipText_eq_ok_iff.1 h)
    case h_7 heq =>
      obtain _ | bound := bound
      · cases h
      rw [heq] at hbehind
      exact .array (heq ▸ hgap)
        (derives_of_skipNested_bracket (ih bound (Nat.lt_succ_self bound)) hbehind)
    case h_8 heq =>
      obtain _ | bound := bound
      · cases h
      rw [heq] at hbehind
      obtain ⟨listed, hlisted⟩ :=
        derives_of_skipNested_brace (ih bound (Nat.lt_succ_self bound)) hbehind
      exact .object (heq ▸ hgap) hlisted
    case h_9 heq =>
      split at h
      · exact .positive (heq ▸ hgap) (skipNumber_eq_ok_iff.1 h)
      · cases h

/-- What the readers that skip make of a phrase when they may go as deep as its text is long. -/
def Phrase.IsSkipped (p : Phrase) (text rest : List Char) : Prop :=
  ∀ bound, text.length ≤ bound →
    match p with
    | .value => skipNested bound text = .ok rest
    | .items true => skipNested (bound + 1) ('[' :: text) = .ok rest
    | .items false => ∀ allowed, text.length ≤ allowed →
        skipItemsFrom (skipNested bound) allowed text = .ok rest
    | .members true _ => skipNested (bound + 1) ('{' :: text) = .ok rest
    | .members false _ => ∀ allowed, text.length ≤ allowed →
        skipMembersFrom (skipNested bound) allowed text = .ok rest

theorem Unsigned.exists_cons (h : Unsigned text rest) :
    ∃ c after, text = c :: after ∧ isDigit c := by
  have hwhole : ∃ behind, Whole text behind := by
    cases h with
    | whole hwhole _ _ | fraction hwhole _ _ => exact ⟨_, hwhole⟩
  obtain ⟨behind, digits, hdigits, hrest, rfl⟩ := hwhole
  exact Digits.exists_cons ⟨digits, hdigits.nonempty, hdigits.digit, hrest, rfl⟩

/-- What can be skipped neither ends the text nor the array. -/
theorem skipNested_bracket_of_item {behind : List Char}
    (hitem : skipNested bound text = .ok behind)
    (hitems : skipItemsFrom (skipNested bound) ((skipSpace text).length + 1) behind = .ok rest) :
    skipNested (bound + 1) ('[' :: text) = .ok rest := by
  rw [← (skipsSpace_skipNested bound).skipSpace_eq] at hitem
  rw [skipNested.eq_def, skipSpace_cons (by decide)]
  simp only
  split
  · rename_i heq
    rw [heq, skipNested.eq_def] at hitem
    cases hitem
  · rename_i heq
    rw [heq, skipNested.eq_def] at hitem
    cases hitem
  · simp only [hitem, ok_bind, hitems]

theorem skipMember_eq_ok {skip : List Char → Read (List Char)} {quoted colon value : List Char}
    (hkey : Gap text ('"' :: quoted)) (hliteral : Literal quoted colon)
    (hcolon : Gap colon (':' :: value)) (hvalue : skip value = .ok rest) :
    skipMember skip text = .ok rest := by
  rw [skipMember, (gap_cons_iff (by decide)).1 hkey]
  simp only [skipText_eq_ok_iff.2 hliteral, ok_bind, readColon_eq_ok_iff.2 hcolon, hvalue]

/-- A bound that has to be at least as long as a phrase is not zero. -/
theorem exists_eq_succ_of_lt {bound : Nat} (hlength : rest.length < text.length)
    (hbound : text.length ≤ bound) : ∃ smaller, bound = smaller + 1 :=
  Nat.exists_eq_succ_of_ne_zero (by omega)

theorem isSkipped_noItem (first : Bool) (hgap : Gap text (']' :: rest)) :
    (Phrase.items first).IsSkipped text rest := by
  have hitems : Derives (.items first) text rest := .noItem hgap
  have hlength := hitems.length_lt
  rw [gap_cons_iff (by decide)] at hgap
  cases first with
  | true =>
    intro bound _
    change skipNested _ _ = _
    rw [skipNested.eq_def, skipSpace_cons (by decide)]
    simp only [hgap]
  | false =>
    intro bound _ allowed hallowed
    obtain ⟨allowed, rfl⟩ := exists_eq_succ_of_lt hlength hallowed
    rw [skipItemsFrom, hgap]
    rfl

theorem isSkipped_item {first : Bool} {value behind : List Char} (hopens : Opens first text value)
    (hvalue : Derives .value value behind) (ih : Phrase.value.IsSkipped value behind)
    (ihs : (Phrase.items false).IsSkipped behind rest) :
    (Phrase.items first).IsSkipped text rest := by
  have hlength := hvalue.length_lt
  cases first with
  | true =>
    intro bound hbound
    obtain rfl : text = value := hopens
    have hitem := ih bound hbound
    have hspace : behind.length < (skipSpace text).length := by
      rw [← (skipsSpace_skipNested bound).skipSpace_eq] at hitem
      exact (value_of_skipNested hitem).length_lt
    exact skipNested_bracket_of_item (ih bound hbound) (ihs bound (by omega) _ (by omega))
  | false =>
    intro bound hbound allowed hallowed
    have hcomma : Gap text (',' :: value) := hopens
    have hless := hcomma.length_le
    rw [List.length_cons] at hless
    have hshorter : value.length < text.length := hless
    obtain ⟨allowed, rfl⟩ := exists_eq_succ_of_lt hshorter hallowed
    have hitem : skipNested bound value = .ok behind := ih bound (by omega)
    rw [skipItemsFrom, (gap_cons_iff (by decide)).1 hcomma]
    simp only [hitem, ok_bind]
    exact ihs bound (by omega) allowed (by omega)

theorem isSkipped_noMember (first : Bool) (hgap : Gap text ('}' :: rest)) :
    (Phrase.members first []).IsSkipped text rest := by
  have hmembers : Derives (.members first []) text rest := .noMember hgap
  have hlength := hmembers.length_lt
  rw [gap_cons_iff (by decide)] at hgap
  cases first with
  | true =>
    intro bound _
    change skipNested _ _ = _
    rw [skipNested.eq_def, skipSpace_cons (by decide)]
    simp only [hgap]
  | false =>
    intro bound _ allowed hallowed
    obtain ⟨allowed, rfl⟩ := exists_eq_succ_of_lt hlength hallowed
    rw [skipMembersFrom, hgap]
    rfl

theorem isSkipped_member {first : Bool} {m : Member} {key colon : List Char}
    {listed : List Member} (hopens : Opens first text key) (hkey : Gap key ('"' :: m.key))
    (hliteral : Literal m.key colon) (hcolon : Gap colon (':' :: m.value))
    (hvalue : Derives .value m.value m.rest) (ih : Phrase.value.IsSkipped m.value m.rest)
    (ihs : (Phrase.members false listed).IsSkipped m.rest rest) :
    (Phrase.members first (m :: listed)).IsSkipped text rest := by
  have hlength := hvalue.length_lt
  have hcolonless := hcolon.length_le
  have hliteralless := hliteral.length_lt
  rw [List.length_cons] at hcolonless
  cases first with
  | true =>
    intro bound hbound
    obtain rfl : text = key := hopens
    have hkeyless := hkey.length_le
    rw [List.length_cons] at hkeyless
    have hmember : skipMember (skipNested bound) ('"' :: m.key) = .ok m.rest :=
      skipMember_eq_ok ⟨[], List.forall_mem_nil _, rfl⟩ hliteral hcolon (ih bound (by omega))
    obtain ⟨gap, hgap, rfl⟩ := hkey
    change skipNested _ _ = _
    rw [skipNested_brace hgap, hmember, Except.bind]
    exact ihs bound (by omega) _ (by rw [List.length_cons]; omega)
  | false =>
    intro bound hbound allowed hallowed
    have hcomma : Gap text (',' :: key) := hopens
    have hless := hcomma.length_le
    have hkeyless := hkey.length_le
    rw [List.length_cons] at hless hkeyless
    have hshorter : key.length < text.length := hless
    obtain ⟨allowed, rfl⟩ := exists_eq_succ_of_lt hshorter hallowed
    have hmember : skipMember (skipNested bound) key = .ok m.rest :=
      skipMember_eq_ok hkey hliteral hcolon (ih bound (by omega))
    rw [skipMembersFrom, (gap_cons_iff (by decide)).1 hcomma]
    simp only [hmember, ok_bind]
    exact ihs bound (by omega) allowed (by omega)

theorem isSkipped_of_derives {p : Phrase} (h : Derives p text rest) : p.IsSkipped text rest := by
  induction h with
  | null hgap | yes hgap | no hgap =>
    intro bound _
    rw [gap_cons_iff (by decide)] at hgap
    rw [skipNested.eq_def, hgap]
    rfl
  | positive hgap hnumber =>
    intro bound _
    obtain ⟨c, after, rfl, hc⟩ := hnumber.exists_cons
    rw [gap_cons_iff (isSpace_of_isDigit hc)] at hgap
    change skipNested bound _ = _
    rw [← (skipsSpace_skipNested bound).skipSpace_eq, hgap, skipNested_digit hc]
    exact skipNumber_eq_ok_iff.2 hnumber
  | negative hgap hnumber =>
    intro bound _
    rw [gap_cons_iff (by decide)] at hgap
    rw [skipNested.eq_def, hgap]
    exact skipNumber_eq_ok_iff.2 hnumber
  | string hgap hliteral =>
    intro bound _
    rw [gap_cons_iff (by decide)] at hgap
    rw [skipNested.eq_def, hgap]
    exact skipText_eq_ok_iff.2 hliteral
  | @array _ body _ hgap _ ih | @object _ body _ _ hgap _ ih =>
    intro bound hbound
    have hlength : body.length < _ := hgap.length_le
    obtain ⟨bound, rfl⟩ := exists_eq_succ_of_lt hlength hbound
    rw [gap_cons_iff (by decide)] at hgap
    change skipNested _ _ = _
    rw [← (skipsSpace_skipNested _).skipSpace_eq, hgap]
    exact ih bound (by omega)
  | noItem hgap => exact isSkipped_noItem _ hgap
  | item hopens hvalue _ ih ihs => exact isSkipped_item hopens hvalue ih ihs
  | noMember hgap => exact isSkipped_noMember _ hgap
  | member hopens hkey hliteral hcolon hvalue _ ih ihs =>
    exact isSkipped_member hopens hkey hliteral hcolon hvalue ih ihs

/-- A value is skipped, however deep it is, and nothing else is. -/
theorem skipValue_eq_ok_iff : skipValue text = .ok rest ↔ Value text rest :=
  ⟨value_of_skipNested, fun h => isSkipped_of_derives h text.length (Nat.le_refl _)⟩

/-- A value has one end. -/
theorem Value.rest_eq {left : List Char} (h : Value text rest) (hleft : Value text left) :
    left = rest :=
  Except.ok.inj ((skipValue_eq_ok_iff.2 hleft).symm.trans (skipValue_eq_ok_iff.2 h))

theorem value_skipSpace_iff : Value (skipSpace text) rest ↔ Value text rest := by
  have hsame := (skipsSpace_skipNested text.length).skipSpace_eq text
  have hless := (gap_skipSpace text).length_le
  constructor
  · intro h
    exact value_of_skipNested (hsame ▸ isSkipped_of_derives h text.length hless)
  · intro h
    exact value_of_skipNested (hsame ▸ isSkipped_of_derives h text.length (Nat.le_refl _))

end Nested

end SeriesQuery.Json
