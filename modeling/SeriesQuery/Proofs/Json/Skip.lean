import SeriesQuery.Proofs.Json.Tree

/-!
# Printed values are skipped

A reader that has no use for a value looks only for its end. It finds the end of every printed tree
without doubles, however deep that is: each pair of brackets takes at least two characters, so the
length of the text is enough as a bound on the depth.
-/

namespace SeriesQuery.Json

/-- The skipper stops right behind the text. -/
def Skips (skip : List Char → Read (List Char)) (text : List Char) : Prop :=
  ∀ rest, EndsNumber rest → skip (text ++ rest) = .ok rest

variable {layout : Layout} {depth : Nat} {skip : List Char → Read (List Char)}

/-! ### Strings and numbers -/

theorem skipText_of_spells {spelling text : List Char} (h : Spells spelling text)
    (rest : List Char) : skipText (spelling ++ '"' :: rest) = .ok rest := by
  induction h with
  | nil => rfl
  | plain hprintable hquote hbackslash _ ih =>
    have hcontrol := Nat.not_lt.2 hprintable
    rw [List.cons_append, skipText.eq_def]
    simp [hcontrol, hbackslash, ih]
  | escaped hescape _ ih =>
    have hletter := simpleEscape?_ne hescape
    rw [List.cons_append, List.cons_append, skipText.eq_def]
    simp [hletter, hescape, ih]
  | unit hunit _ _ _ ih =>
    simp only [List.cons_append]
    rw [skipText.eq_def]
    simp [hunit, ih]
  | pair hfirst _ hsecond _ _ ih =>
    -- The two surrogates are skipped one after the other.
    simp only [List.cons_append]
    rw [skipText.eq_def]
    simp only [hfirst]
    rw [skipText.eq_def]
    simp [hsecond, ih]

theorem skipText_quoted (text rest : List Char) :
    skipText (text.flatMap escapeChar ++ '"' :: rest) = .ok rest :=
  skipText_of_spells (spells_printed text) rest

theorem skipNumber_numeral {digits : List Char} (h : IsNumeral digits) :
    Skips skipNumber digits := by
  intro rest hrest
  obtain ⟨_, hdrop⟩ := span_digits h.digit hrest
  cases digits with
  | nil => exact absurd rfl h.nonempty
  | cons c front =>
    have hc : isDigit c := h.digit c List.mem_cons_self
    have hzero := h.not_digit_behind_zero hrest.stopsAt
    rw [List.cons_append] at hdrop
    rw [List.cons_append, skipNumber]
    simp only [hc, Bool.not_true, Bool.false_eq_true, if_false, if_neg hzero, hdrop]
    split
    · exact absurd rfl (hrest '.' rfl).2.1
    · exact absurd rfl (hrest 'e' rfl).2.2.1
    · exact absurd rfl (hrest 'E' rfl).2.2.2
    · rfl

/-! ### Brackets -/

/-- The skipper passes over white space in front of the text. -/
theorem Skips.behindGap (hspace : SkipsSpace skip) {gap text : List Char}
    (hgap : ∀ c ∈ gap, isSpace c) (h : Skips skip text) : Skips skip (gap ++ text) := by
  intro rest hrest
  rw [List.append_assoc, hspace gap hgap, h rest hrest]

theorem skipItemsFrom_written (hlayout : layout.Blank) (hspace : SkipsSpace skip)
    {items : List Json} (h : ∀ item ∈ items, Skips skip (item.written layout (depth + 1)))
    {bound : Nat} (hbound : items.length < bound) (rest : List Char) :
    skipItemsFrom skip bound (writtenItems layout depth items ++ rest) = .ok rest := by
  induction items generalizing bound with
  | nil =>
    obtain ⟨bound, rfl⟩ := Nat.exists_eq_add_of_lt hbound
    rw [writtenItems, List.append_assoc, List.singleton_append, skipItemsFrom,
      skipSpace_append (hlayout.line depth), skipSpace_cons (by decide)]
    rfl
  | cons item items ih =>
    obtain ⟨bound, rfl⟩ : ∃ earlier, bound = earlier + 1 :=
      Nat.exists_eq_succ_of_ne_zero (Nat.ne_of_gt (Nat.lt_of_le_of_lt (Nat.zero_le _) hbound))
    obtain ⟨hitem, hitems⟩ := List.forall_mem_cons.1 h
    have hends := endsNumber_writtenItems hlayout depth items rest
    have hskip := hitem.behindGap hspace (hlayout.line (depth + 1)) _ hends
    have hrest := ih hitems (Nat.lt_of_succ_lt_succ hbound)
    rw [List.append_assoc] at hskip
    simp only [writtenItems, List.append_assoc, List.cons_append]
    rw [skipItemsFrom, skipSpace_cons (by decide)]
    simp only [bind, Except.bind, hskip, hrest]

theorem skipMember_written (hlayout : layout.Blank) (hspace : SkipsSpace skip) (name : String)
    {text : List Char} (h : Skips skip text) {gap : List Char} (hgap : ∀ c ∈ gap, isSpace c) :
    Skips (skipMember skip) (gap ++ (quote name ++ ':' :: (layout.afterColon ++ text))) := by
  intro rest hrest
  have hskip := h.behindGap hspace hlayout.afterColon rest hrest
  rw [List.append_assoc] at hskip
  simp only [List.append_assoc, List.cons_append, quote_append]
  rw [skipMember, skipSpace_append hgap, skipSpace_cons (by decide)]
  simp only [bind, Except.bind, skipText_quoted, readColon_cons, hskip]

theorem skipMembersFrom_written (hlayout : layout.Blank) (hspace : SkipsSpace skip)
    {members : List (String × Json)}
    (h : ∀ member ∈ members, Skips skip (member.2.written layout (depth + 1)))
    {bound : Nat} (hbound : members.length < bound) (rest : List Char) :
    skipMembersFrom skip bound (writtenMembers layout depth members ++ rest) = .ok rest := by
  induction members generalizing bound with
  | nil =>
    obtain ⟨bound, rfl⟩ := Nat.exists_eq_add_of_lt hbound
    rw [writtenMembers, List.append_assoc, List.singleton_append, skipMembersFrom,
      skipSpace_append (hlayout.line depth), skipSpace_cons (by decide)]
    rfl
  | cons member members ih =>
    obtain ⟨bound, rfl⟩ : ∃ earlier, bound = earlier + 1 :=
      Nat.exists_eq_succ_of_ne_zero (Nat.ne_of_gt (Nat.lt_of_le_of_lt (Nat.zero_le _) hbound))
    obtain ⟨name, value⟩ := member
    obtain ⟨hmember, hmembers⟩ := List.forall_mem_cons.1 h
    have hends := endsNumber_writtenMembers hlayout depth members rest
    have hskip := skipMember_written hlayout hspace name hmember (hlayout.line (depth + 1)) _ hends
    have hrest := ih hmembers (Nat.lt_of_succ_lt_succ hbound)
    simp only [List.append_assoc, List.cons_append] at hskip
    simp only [writtenMembers, List.append_assoc, List.cons_append]
    rw [skipMembersFrom, skipSpace_cons (by decide)]
    simp only [bind, Except.bind, hskip, hrest]

/-! ### Whole values -/

theorem skipsSpace_skipNested (bound : Nat) : SkipsSpace (skipNested bound) := by
  intro gap hgap text
  rw [skipNested.eq_def bound (gap ++ text), skipNested.eq_def bound text, skipSpace_append hgap]

theorem skipNested_digit {c : Char} (hc : isDigit c) (bound : Nat) (rest : List Char) :
    skipNested bound (c :: rest) = skipNumber (c :: rest) := by
  rw [skipNested.eq_def, skipSpace_cons (isSpace_of_isDigit hc)]
  split
  case h_1 heq => cases heq
  case h_9 heq =>
    obtain ⟨rfl, rfl⟩ := List.cons.inj heq
    rw [if_pos hc]
  -- No word, no string, no bracket and no minus begins with a digit.
  all_goals
    rename_i heq
    exact absurd (List.cons.inj heq).1 (isDigit_ne hc (by decide))

theorem skipNested_integerDigits (n : Int) (bound : Nat) :
    Skips (skipNested bound) (integerDigits n) := by
  intro rest hrest
  cases n with
  | ofNat n =>
    have hskip := skipNumber_numeral (isNumeral_toDigits n) rest hrest
    obtain ⟨c, more, hdigits, hc⟩ := exists_toDigits_cons n
    rw [hdigits, List.cons_append] at hskip
    rw [integerDigits, hdigits, List.cons_append, skipNested_digit hc, hskip]
  | negSucc n =>
    rw [integerDigits, List.cons_append, skipNested.eq_def]
    exact skipNumber_numeral (isNumeral_toDigits (n + 1)) rest hrest

theorem skipNested_bracket {gap text : List Char} (hgap : ∀ c ∈ gap, isSpace c)
    (h : BeginsItem text) (bound : Nat) (more : List Char) :
    skipNested (bound + 1) ('[' :: (gap ++ (text ++ more))) =
      (skipNested bound (text ++ more)).bind
        (skipItemsFrom (skipNested bound) ((text ++ more).length + 1)) := by
  obtain ⟨c, rest, rfl, hspace, hclose⟩ := h
  have hfirst : skipSpace (gap ++ c :: (rest ++ more)) = c :: (rest ++ more) := by
    rw [skipSpace_append hgap, skipSpace_cons hspace]
  rw [skipNested.eq_def, skipSpace_cons (by decide)]
  simp [hfirst, hclose, bind]

theorem skipNested_brace {gap : List Char} (hgap : ∀ c ∈ gap, isSpace c) (bound : Nat)
    (more : List Char) :
    skipNested (bound + 1) ('{' :: (gap ++ '"' :: more)) =
      (skipMember (skipNested bound) ('"' :: more)).bind
        (skipMembersFrom (skipNested bound) (('"' :: more).length + 1)) := by
  have hfirst : skipSpace (gap ++ '"' :: more) = '"' :: more := by
    rw [skipSpace_append hgap, skipSpace_cons (by decide)]
  rw [skipNested.eq_def, skipSpace_cons (by decide)]
  simp [hfirst, bind]

/-- A printed tree is skipped when its brackets are nested no deeper than the bound. -/
theorem skipNested_written (hlayout : layout.Blank) {bound : Nat} {j : Json} (h : Plain bound j)
    (depth : Nat) : Skips (skipNested bound) (j.written layout depth) := by
  induction h generalizing depth with
  | null =>
    intro rest _
    rw [written, skipNested.eq_def]
    rfl
  | boolean b =>
    intro rest _
    rw [written, skipNested.eq_def]
    cases b <;> rfl
  | integer n _ => exact skipNested_integerDigits n _
  | string s =>
    intro rest _
    rw [written, quote_append, skipNested.eq_def]
    exact skipText_quoted s.toList rest
  | @array bound items hitems ih =>
    intro rest _
    cases items with
    | nil =>
      rw [written, skipNested.eq_def]
      rfl
    | cons item items =>
      obtain ⟨hitem, hrest⟩ := List.forall_mem_cons.1 fun item hitem => ih item hitem (depth + 1)
      have hbegins := beginsItem_written (hitems item List.mem_cons_self) layout (depth + 1)
      have hends := endsNumber_writtenItems hlayout depth items rest
      have hlength := length_lt_writtenItems layout depth items
      simp only [written, List.append_assoc, List.cons_append]
      rw [skipNested_bracket (hlayout.line (depth + 1)) hbegins, hitem _ hends, Except.bind]
      refine skipItemsFrom_written hlayout (skipsSpace_skipNested bound) hrest ?_ rest
      simp only [List.length_append]
      omega
  | @object bound members hmembers ih =>
    intro rest _
    cases members with
    | nil =>
      rw [written, skipNested.eq_def]
      rfl
    | cons member members =>
      obtain ⟨name, value⟩ := member
      obtain ⟨hmember, hrest⟩ :=
        List.forall_mem_cons.1 fun member hmember => ih member hmember (depth + 1)
      have hends := endsNumber_writtenMembers hlayout depth members rest
      have hlength := length_lt_writtenMembers layout depth members
      have hspace := skipsSpace_skipNested bound
      have hfirst := skipMember_written hlayout hspace name hmember (List.forall_mem_nil _) _ hends
      simp only [List.nil_append, List.append_assoc, List.cons_append, quote_append] at hfirst
      simp only [written, List.append_assoc, List.cons_append, quote_append]
      rw [skipNested_brace (hlayout.line (depth + 1)), hfirst, Except.bind]
      refine skipMembersFrom_written hlayout hspace hrest ?_ rest
      simp only [List.length_append, List.length_cons]
      omega

/-- A member that is not wanted is skipped when its text is as long as its brackets are deep. -/
theorem skipValue_behindColon (hlayout : layout.Blank) {allowed : Nat} {j : Json}
    (h : Plain allowed j) (hlength : allowed ≤ (j.written layout depth).length) :
    Skips (fun text => do skipValue (← readColon text))
      (':' :: (layout.afterColon ++ j.written layout depth)) := by
  intro rest hrest
  rw [List.cons_append]
  simp only [bind, Except.bind, readColon_cons, skipValue]
  refine ((skipNested_written hlayout (h.mono ?_) depth).behindGap (skipsSpace_skipNested _)
    hlayout.afterColon) rest hrest
  simp only [List.length_append]
  omega

end SeriesQuery.Json
