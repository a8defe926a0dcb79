import SeriesQuery.Proofs.Json.Skip

/-!
# Where a value ends

A text can be read as a tree, and it can be skipped. Where both succeed they stop at the same place,
whatever the text: the two go through the same numbers, strings, brackets, commas and keys, so they
are compared step by step. The depth that is allowed to one says nothing about that of the other.
-/

namespace SeriesQuery.Json

/-! ### Numbers -/

section Numbers

variable {negative : Bool} {significand : Nat} {exponent : Int} {text rest left : List Char}
  {n : Number}

theorem rest_of_scaledNumber
    (h : scaledNumber negative significand exponent rest = .ok (n, left)) : left = rest := by
  rw [scaledNumber] at h
  split at h
  · cases h
  · exact (Prod.mk.inj (Except.ok.inj h)).2.symm

/-- An exponent is a sign, which may be missing, and at least one digit. -/
theorem exists_digit_of_readExponent
    (h : readExponent negative significand exponent text = .ok (n, rest)) :
    ∃ sign c after, text = sign ++ c :: after ∧ sign ∈ [[], ['+'], ['-']] ∧ isDigit c ∧
      rest = after.dropWhile isDigit := by
  unfold readExponent at h
  split at h
  rename_i down digits hsplit
  obtain ⟨sign, htext, hsign⟩ : ∃ sign, text = sign ++ digits ∧ sign ∈ [[], ['+'], ['-']] := by
    split at hsplit <;> obtain ⟨_, rfl⟩ := Prod.mk.inj hsplit
    · exact ⟨['+'], rfl, by decide⟩
    · exact ⟨['-'], rfl, by decide⟩
    · exact ⟨[], rfl, by decide⟩
  cases digits with
  | nil => cases h
  | cons c after =>
    simp only at h
    by_cases hc : isDigit c
    · rw [if_pos hc, List.dropWhile_cons_of_pos hc] at h
      refine ⟨sign, c, after, htext, hsign, hc, ?_⟩
      split at h
      · split at h
        · cases h
        · exact (Prod.mk.inj (Except.ok.inj h)).2.symm
      · exact rest_of_scaledNumber h
    · rw [if_neg hc] at h
      cases h

theorem skipExponent_of_readExponent
    (h : readExponent negative significand exponent text = .ok (n, rest)) :
    skipExponent text = .ok rest := by
  obtain ⟨sign, c, after, rfl, hsign, hc, rfl⟩ := exists_digit_of_readExponent h
  have hplus : c ≠ '+' := isDigit_ne hc (by decide)
  have hminus : c ≠ '-' := isDigit_ne hc (by decide)
  simp only [List.mem_cons, List.not_mem_nil, or_false] at hsign
  unfold skipExponent
  rcases hsign with rfl | rfl | rfl <;> simp [hc, hplus, hminus]

theorem skipFraction_of_readFraction
    (h : readFraction negative significand exponent text = .ok (n, rest)) :
    skipFraction text = .ok rest := by
  rw [readFraction] at h
  rw [skipFraction]
  cases hdigits : text.takeWhile isDigit with
  | nil =>
    rw [hdigits] at h
    simp only [List.isEmpty_nil, if_true] at h
    split at h <;> cases h
  | cons c digits =>
    rw [hdigits] at h
    simp only [List.isEmpty_cons, Bool.false_eq_true, if_false] at h
    split at h
    · rename_i hrest
      rw [hrest]
      exact skipExponent_of_readExponent h
    · rename_i hrest
      rw [hrest]
      exact skipExponent_of_readExponent h
    · rename_i hlower hupper
      rw [rest_of_scaledNumber h]
      split
      · exact absurd ‹c :: digits = []› (List.cons_ne_nil c digits)
      · exact absurd ‹_› (hlower _)
      · exact absurd ‹_› (hupper _)
      · rfl

/-- Where a number is read, a reader that skips it stops at the same place. -/
theorem skipNumber_of_readNumber (h : readNumber negative text = .ok (n, rest)) :
    skipNumber text = .ok rest := by
  rw [readNumber.eq_def] at h
  rw [skipNumber.eq_def]
  cases text with
  | nil => cases h
  | cons c after =>
    simp only at h ⊢
    by_cases hdigit : !isDigit c
    · rw [if_pos hdigit] at h
      cases h
    rw [if_neg hdigit] at h ⊢
    by_cases hzero : c = '0' ∧ after.head?.any isDigit
    · rw [if_pos hzero] at h
      cases h
    rw [if_neg hzero] at h ⊢
    split at h
    · exact skipFraction_of_readFraction h
    · exact skipExponent_of_readExponent h
    · exact skipExponent_of_readExponent h
    · split at h
      · exact congrArg Except.ok (Prod.mk.inj (Except.ok.inj h)).2
      · rw [rest_of_scaledNumber h]

end Numbers

theorem SkipsSpace.skipSpace_eq {α : Type} {reader : List Char → Read α} (h : SkipsSpace reader)
    (text : List Char) : reader (skipSpace text) = reader text := by
  have hgap : ∀ c ∈ text.takeWhile isSpace, isSpace c := List.all_eq_true.1 List.all_takeWhile
  rw [← h _ hgap (skipSpace text), skipSpace, List.takeWhile_append_dropWhile]

/-! ### What goes on inside brackets -/

theorem nextItem_eq_finished {first : Bool} {text rest : List Char}
    (h : nextItem first text = .ok (.finished rest)) : skipSpace text = ']' :: rest := by
  rw [nextItem] at h
  split at h
  · cases h
  · rename_i heq
    rw [heq, Next.finished.inj (Except.ok.inj h)]
  · split at h
    · cases h
    · split at h
      · split at h <;> cases h
      · cases h

theorem nextItem_eq_more {first : Bool} {text item : List Char}
    (h : nextItem first text = .ok (.more item)) :
    (first = true ∧ item = skipSpace text ∧ ∃ c rest, item = c :: rest ∧ c ≠ ']') ∨
      (first = false ∧ ∃ rest, skipSpace text = ',' :: rest ∧ item = skipSpace rest) := by
  rw [nextItem] at h
  split at h
  · cases h
  · cases h
  · rename_i c rest hclose heq
    split at h
    · rename_i hfirst
      obtain rfl := Next.more.inj (Except.ok.inj h)
      exact .inl ⟨hfirst, heq.symm, c, rest, rfl, hclose⟩
    · rename_i hfirst
      split at h
      · rename_i hcomma
        split at h
        · cases h
        · cases h
        · obtain rfl := Next.more.inj (Except.ok.inj h)
          exact .inr ⟨Bool.eq_false_iff.2 hfirst, rest, hcomma ▸ heq, rfl⟩
      · cases h

theorem nextKey_eq_finished {first : Bool} {text rest : List Char}
    (h : nextKey first text = .ok (.finished rest)) : skipSpace text = '}' :: rest := by
  rw [nextKey] at h
  split at h
  · cases h
  · rename_i heq
    rw [heq, Next.finished.inj (Except.ok.inj h)]
  · split at h
    · split at h <;> cases h
    · split at h
      · split at h <;> cases h
      · cases h

theorem nextKey_eq_more {first : Bool} {text key : List Char}
    (h : nextKey first text = .ok (.more key)) :
    (first = true ∧ skipSpace text = '"' :: key) ∨
      (first = false ∧ ∃ rest, skipSpace text = ',' :: rest ∧ skipSpace rest = '"' :: key) := by
  rw [nextKey] at h
  split at h
  · cases h
  · cases h
  · rename_i c rest hclose heq
    split at h
    · rename_i hfirst
      split at h
      · rename_i hquote
        obtain rfl := Next.more.inj (Except.ok.inj h)
        exact .inl ⟨hfirst, hquote ▸ heq⟩
      · cases h
    · rename_i hfirst
      split at h
      · rename_i hcomma
        split at h
        · cases h
        · rename_i hquote
          obtain rfl := Next.more.inj (Except.ok.inj h)
          exact .inr ⟨Bool.eq_false_iff.2 hfirst, rest, hcomma ▸ heq, hquote⟩
        · cases h
        · cases h
      · cases h

theorem skipSpace_of_endArray {text rest : List Char} (h : endArray text = .ok rest) :
    skipSpace text = ']' :: rest := by
  rw [endArray] at h
  split at h
  · cases h
  · rename_i heq
    rw [heq, Except.ok.inj h]
  · split at h <;> cases h
  · cases h

/-- Items end at the closing bracket, or one is read and others follow it. -/
theorem readItemsFrom_cases {α : Type} {item : List Char → Read (α × List Char)} {bound : Nat}
    {first : Bool} {text rest : List Char} {values : List α}
    (h : readItemsFrom item bound first text = .ok (values, rest)) :
    (nextItem first text = .ok (.finished rest) ∧ values = []) ∨
    ∃ smaller body value behind others, nextItem first text = .ok (.more body) ∧
      item body = .ok (value, behind) ∧
      readItemsFrom item smaller false behind = .ok (others, rest) ∧
      bound = smaller + 1 ∧ values = value :: others := by
  cases bound with
  | zero => cases h
  | succ smaller =>
    rw [readItemsFrom] at h
    obtain ⟨next, hnext, h⟩ := exists_of_bind_eq_ok h
    cases next with
    | finished after =>
      obtain ⟨rfl, rfl⟩ := Prod.mk.inj (Except.ok.inj h)
      exact .inl ⟨hnext, rfl⟩
    | more body =>
      obtain ⟨⟨value, behind⟩, hvalue, h⟩ := exists_of_bind_eq_ok h
      obtain ⟨⟨others, last⟩, hothers, h⟩ := exists_of_bind_eq_ok h
      obtain ⟨rfl, rfl⟩ := Prod.mk.inj (Except.ok.inj h)
      exact .inr ⟨smaller, body, value, behind, others, hnext, hvalue, hothers, rfl, rfl⟩

/-- Members end at the closing bracket, or one changes the state and others follow it. -/
theorem readMembersFrom_cases {σ : Type} {member : σ → String → List Char → Read (σ × List Char)}
    {bound : Nat} {first : Bool} {text rest : List Char} {state final : σ}
    (h : readMembersFrom member bound first state text = .ok (final, rest)) :
    (nextKey first text = .ok (.finished rest) ∧ final = state) ∨
    ∃ smaller key name after next behind, nextKey first text = .ok (.more key) ∧
      readText key = .ok (name, after) ∧
      member state (String.ofList name) after = .ok (next, behind) ∧
      readMembersFrom member smaller false next behind = .ok (final, rest) ∧
      bound = smaller + 1 := by
  cases bound with
  | zero => cases h
  | succ smaller =>
    rw [readMembersFrom] at h
    obtain ⟨more, hmore, h⟩ := exists_of_bind_eq_ok h
    cases more with
    | finished after =>
      obtain ⟨rfl, rfl⟩ := Prod.mk.inj (Except.ok.inj h)
      exact .inl ⟨hmore, rfl⟩
    | more key =>
      obtain ⟨⟨name, after⟩, hname, h⟩ := exists_of_bind_eq_ok h
      obtain ⟨⟨next, behind⟩, hnext, h⟩ := exists_of_bind_eq_ok h
      exact .inr ⟨smaller, key, name, after, next, behind, hmore, hname, hnext, h, rfl⟩

/-! ### Reading and skipping -/

variable {reader : List Char → Read (Json × List Char)} {skip : List Char → Read (List Char)}

/-- Where a value is read as a tree and is skipped as well, both stop at the same place. -/
def StopsAlike (reader : List Char → Read (Json × List Char))
    (skip : List Char → Read (List Char)) : Prop :=
  ∀ ⦃text rest left : List Char⦄ ⦃j : Json⦄, reader text = .ok (j, rest) → skip text = .ok left →
    left = rest

theorem skipItemsFrom_of_readItemsFrom (hspace : SkipsSpace skip) (h : StopsAlike reader skip)
    {bound allowed : Nat} {text rest left : List Char} {items : List Json}
    (hread : readItemsFrom reader allowed false text = .ok (items, rest))
    (hskip : skipItemsFrom skip bound text = .ok left) : left = rest := by
  induction bound generalizing allowed text items with
  | zero => cases hskip
  | succ bound ih =>
    rcases readItemsFrom_cases hread with ⟨hnext, _⟩ |
      ⟨_, _, _, _, _, hnext, hvalue, hvalues, _, _⟩
    · rw [skipItemsFrom, nextItem_eq_finished hnext] at hskip
      exact (Except.ok.inj hskip).symm
    · obtain ⟨hfirst, _⟩ | ⟨_, after, hcomma, rfl⟩ := nextItem_eq_more hnext
      · cases hfirst
      rw [skipItemsFrom, hcomma] at hskip
      obtain ⟨found, hfound, hskip⟩ := exists_of_bind_eq_ok hskip
      rw [← hspace.skipSpace_eq] at hfound
      obtain rfl := h hvalue hfound
      exact ih hvalues hskip

theorem skipMember_of_readTreeMember (h : StopsAlike reader skip) {text key rest left : List Char}
    {members next : List (String × Json)} {name : List Char} {after : List Char}
    (hkey : skipSpace text = '"' :: key) (hname : readText key = .ok (name, after))
    (hread : readTreeMember reader members (String.ofList name) after = .ok (next, rest))
    (hskip : skipMember skip text = .ok left) : left = rest := by
  obtain ⟨spelling, rfl, hspells⟩ := spells_of_readText hname
  rw [skipMember, hkey] at hskip
  simp only [skipText_of_spells hspells, ok_bind] at hskip
  obtain ⟨body, hcolon, hread⟩ := exists_of_bind_eq_ok hread
  obtain ⟨⟨value, behind⟩, hvalue, hread⟩ := exists_of_bind_eq_ok hread
  obtain ⟨_, rfl⟩ := Prod.mk.inj (Except.ok.inj hread)
  rw [hcolon] at hskip
  exact h hvalue hskip

theorem skipMembersFrom_of_readMembersFrom (h : StopsAlike reader skip)
    {bound allowed : Nat} {text rest left : List Char} {members final : List (String × Json)}
    (hread : readMembersFrom (readTreeMember reader) allowed false members text = .ok (final, rest))
    (hskip : skipMembersFrom skip bound text = .ok left) : left = rest := by
  induction bound generalizing allowed text members with
  | zero => cases hskip
  | succ bound ih =>
    rcases readMembersFrom_cases hread with ⟨hnext, _⟩ |
      ⟨_, _, _, _, _, _, hnext, hname, hmember, hmembers, _⟩
    · rw [skipMembersFrom, nextKey_eq_finished hnext] at hskip
      exact (Except.ok.inj hskip).symm
    · obtain ⟨hfirst, _⟩ | ⟨_, after, hcomma, hkey⟩ := nextKey_eq_more hnext
      · cases hfirst
      rw [skipMembersFrom, hcomma] at hskip
      obtain ⟨found, hfound, hskip⟩ := exists_of_bind_eq_ok hskip
      obtain rfl := skipMember_of_readTreeMember h hkey hname hmember hfound
      exact ih hmembers hskip

/-! ### Trees by their first character -/

section FirstCharacter

variable {allowed : Nat} {rest left : List Char} {j : Json}

theorem readTree_null (allowed : Nat) (rest : List Char) :
    readTree allowed ('n' :: rest) = do return (.null, ← readWord ['u', 'l', 'l'] rest) := by
  rw [readTree.eq_def]
  rfl

theorem readTree_true (allowed : Nat) (rest : List Char) :
    readTree allowed ('t' :: rest) = do return (.boolean true, ← readWord ['r', 'u', 'e'] rest) := by
  rw [readTree.eq_def]
  rfl

theorem readTree_false (allowed : Nat) (rest : List Char) :
    readTree allowed ('f' :: rest) =
      do return (.boolean false, ← readWord ['a', 'l', 's', 'e'] rest) := by
  rw [readTree.eq_def]
  rfl

theorem exists_items_of_readTree (h : readTree allowed ('[' :: rest) = .ok (j, left)) :
    ∃ inner items, allowed = inner + 1 ∧ j = .array items ∧
      readItems (readTree inner) rest = .ok (items, left) := by
  cases allowed with
  | zero =>
    rw [readTree.eq_def] at h
    cases h
  | succ inner =>
    rw [readTree_bracket] at h
    obtain ⟨items, hitems, rfl⟩ := exists_of_mapValue_eq_ok h
    exact ⟨inner, items, rfl, rfl, hitems⟩

theorem exists_members_of_readTree (h : readTree allowed ('{' :: rest) = .ok (j, left)) :
    ∃ inner members, allowed = inner + 1 ∧ j = .object members ∧
      readMembers (readTreeMember (readTree inner)) [] rest = .ok (members, left) := by
  cases allowed with
  | zero =>
    rw [readTree.eq_def] at h
    cases h
  | succ inner =>
    rw [readTree_brace] at h
    obtain ⟨members, hmembers, rfl⟩ := exists_of_mapValue_eq_ok h
    exact ⟨inner, members, rfl, rfl, hmembers⟩

end FirstCharacter

theorem StopsAlike.readItems_bracket {bound : Nat} (h : StopsAlike reader (skipNested bound))
    {text rest left : List Char} {items : List Json}
    (hread : readItems reader text = .ok (items, rest))
    (hskip : skipNested (bound + 1) ('[' :: text) = .ok left) : left = rest := by
  rw [skipNested.eq_def, skipSpace_cons (by decide)] at hskip
  simp only at hskip
  rcases readItemsFrom_cases hread with ⟨hnext, _⟩ |
    ⟨_, _, _, _, _, hnext, hvalue, hvalues, _, _⟩
  · rw [nextItem_eq_finished hnext] at hskip
    exact (Except.ok.inj hskip).symm
  · obtain ⟨_, rfl, c, after, hitem, hclose⟩ | ⟨hfirst, _⟩ := nextItem_eq_more hnext
    · rw [hitem] at hskip hvalue
      split at hskip
      · cases hskip
      · rename_i heq
        exact absurd (List.cons.inj heq).1 hclose
      · obtain ⟨found, hfound, hskip⟩ := exists_of_bind_eq_ok hskip
        obtain rfl := h hvalue hfound
        exact skipItemsFrom_of_readItemsFrom (skipsSpace_skipNested bound) h hvalues hskip
    · cases hfirst

theorem StopsAlike.readMembers_brace {bound : Nat} (h : StopsAlike reader (skipNested bound))
    {text rest left : List Char} {members : List (String × Json)}
    (hread : readMembers (readTreeMember reader) [] text = .ok (members, rest))
    (hskip : skipNested (bound + 1) ('{' :: text) = .ok left) : left = rest := by
  rw [skipNested.eq_def, skipSpace_cons (by decide)] at hskip
  simp only at hskip
  rcases readMembersFrom_cases hread with ⟨hnext, _⟩ |
    ⟨_, _, _, _, _, _, hnext, hname, hmember, hmembers, _⟩
  · rw [nextKey_eq_finished hnext] at hskip
    exact (Except.ok.inj hskip).symm
  · obtain ⟨_, hkey⟩ | ⟨hfirst, _⟩ := nextKey_eq_more hnext
    · rw [hkey] at hskip
      obtain ⟨found, hfound, hskip⟩ := exists_of_bind_eq_ok hskip
      obtain rfl := skipMember_of_readTreeMember h rfl hname hmember hfound
      exact skipMembersFrom_of_readMembersFrom h hmembers hskip
    · cases hfirst

/-- A value that is read as a tree ends where it ends for a reader that skips it. -/
theorem stopsAlike_readTree_skipNested (allowed bound : Nat) :
    StopsAlike (readTree allowed) (skipNested bound) := by
  induction bound using Nat.strongRecOn generalizing allowed with
  | ind bound ih =>
    intro text rest left j hread hskip
    rw [← (skipsSpace_readTree allowed).skipSpace_eq] at hread
    have hbehind : skipNested bound (skipSpace text) = .ok left := by
      rw [(skipsSpace_skipNested bound).skipSpace_eq, hskip]
    rw [skipNested.eq_def] at hskip
    split at hskip
    case h_1 => cases hskip
    case h_2 heq =>
      rw [heq, readTree_null] at hread
      exact Except.ok.inj (hskip.symm.trans (readWord_of_bind hread).2)
    case h_3 heq =>
      rw [heq, readTree_true] at hread
      exact Except.ok.inj (hskip.symm.trans (readWord_of_bind hread).2)
    case h_4 heq =>
      rw [heq, readTree_false] at hread
      exact Except.ok.inj (hskip.symm.trans (readWord_of_bind hread).2)
    case h_5 heq =>
      rw [heq, readTree_minus] at hread
      obtain ⟨n, hnumber, _⟩ := exists_of_mapValue_eq_ok hread
      exact Except.ok.inj (hskip.symm.trans (skipNumber_of_readNumber hnumber))
    case h_6 heq =>
      rw [heq, readTree_quote] at hread
      obtain ⟨s, htext, _⟩ := exists_of_mapValue_eq_ok hread
      obtain ⟨spelling, rfl, hspells⟩ := spells_of_readText htext
      exact Except.ok.inj (hskip.symm.trans (skipText_of_spells hspells rest))
    case h_7 heq =>
      rw [heq] at hread hbehind
      obtain ⟨inner, items, rfl, rfl, hitems⟩ := exists_items_of_readTree hread
      obtain _ | bound := bound
      · cases hskip
      · exact (ih bound (Nat.lt_succ_self bound) inner).readItems_bracket hitems hbehind
    case h_8 heq =>
      rw [heq] at hread hbehind
      obtain ⟨inner, members, rfl, rfl, hmembers⟩ := exists_members_of_readTree hread
      obtain _ | bound := bound
      · cases hskip
      · exact (ih bound (Nat.lt_succ_self bound) inner).readMembers_brace hmembers hbehind
    case h_9 c after _ _ _ _ _ _ _ heq =>
      split at hskip
      · rename_i hc
        rw [heq, readTree_digit hc] at hread
        obtain ⟨n, hnumber, _⟩ := exists_of_mapValue_eq_ok hread
        exact Except.ok.inj (hskip.symm.trans (skipNumber_of_readNumber hnumber))
      · cases hskip

end SeriesQuery.Json
