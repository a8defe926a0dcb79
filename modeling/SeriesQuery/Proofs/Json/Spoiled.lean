import SeriesQuery.Proofs.Json.Denotation
import SeriesQuery.Proofs.Judgements

/-!
# Values that denote nothing

A value denotes a tree unless something spoils it, and what spoils a value stands somewhere in its
text. It is a number that is found to be out of range, a string with a surrogate that has no partner,
in the place of a value or of a name, or a bracket inside as many others as are allowed. Any of these
spoils all the values around it, and without them each value denotes a tree.
-/

namespace SeriesQuery.Json

/-! ### Numbers out of range -/

/-- A number is found, or one that is out of range. -/
def FindsNumber (rest : List Char) (outcome : Read (Number × List Char)) : Prop :=
  (∃ n, outcome = .ok (n, rest)) ∨ ∃ left, outcome = .error (.malformed .numberOutOfRange left)

/-- No double is found for the number, since it is too large. -/
def OutOfRange (negative : Bool) (digits : List Char) : Prop :=
  ∃ left, readNumber negative digits = .error (.malformed .numberOutOfRange left)

section Numbers

variable {negative : Bool} {significand : Nat} {exponent : Int} {text behind rest : List Char}

theorem findsNumber_scaledNumber (negative : Bool) (significand : Nat) (exponent : Int)
    (rest : List Char) : FindsNumber rest (scaledNumber negative significand exponent rest) := by
  rw [scaledNumber]
  cases scaled? significand exponent with
  | none => exact .inr ⟨_, rfl⟩
  | some x => exact .inl ⟨_, rfl⟩

theorem findsNumber_readExponent {sign digits : List Char} (hsign : sign ∈ [[], ['+'], ['-']])
    (hdigits : Digits digits rest) :
    FindsNumber rest (readExponent negative significand exponent (sign ++ digits)) := by
  obtain ⟨c, after, rfl, hc⟩ := hdigits.exists_cons
  obtain ⟨-, rfl⟩ := digits_iff.1 hdigits
  have hplus : c ≠ '+' := isDigit_ne hc (by decide)
  have hminus : c ≠ '-' := isDigit_ne hc (by decide)
  simp only [List.mem_cons, List.not_mem_nil, or_false] at hsign
  unfold readExponent
  split
  rename_i down digits hsplit
  obtain rfl : c :: after = digits := by
    rcases hsign with rfl | rfl | rfl <;> simp [hplus, hminus] at hsplit <;> exact hsplit.2
  simp only [if_pos hc]
  split
  · split
    · exact .inr ⟨_, rfl⟩
    · exact .inl ⟨_, rfl⟩
  · exact findsNumber_scaledNumber _ _ _ _

theorem findsNumber_readFraction (hdigits : Digits text behind) (hpower : Power behind rest) :
    FindsNumber rest (readFraction negative significand exponent text) := by
  obtain ⟨hne, rfl⟩ := digits_iff.1 hdigits
  rw [readFraction]
  simp only [List.isEmpty_iff, if_neg hne]
  generalize text.dropWhile isDigit = behind at hpower
  cases hpower with
  | none hlower hupper =>
    split
    · exact absurd rfl hlower
    · exact absurd rfl hupper
    · exact findsNumber_scaledNumber _ _ _ _
  | some hmark hsign hdigits =>
    rcases hmark with rfl | rfl
    all_goals exact findsNumber_readExponent hsign hdigits

/-- The digits of a number are read, or the number is out of range. -/
theorem findsNumber_readNumber (negative : Bool) (h : Unsigned text rest) :
    FindsNumber rest (readNumber negative text) := by
  obtain ⟨c, after, rfl, -⟩ := h.exists_cons
  rw [readNumber]
  cases h with
  | whole hwhole hpoint hpower =>
    obtain ⟨hc, hzero, hbehind⟩ := whole_cons_iff.1 hwhole
    simp only [hc, Bool.not_true, Bool.false_eq_true, if_false, if_neg hzero, hbehind]
    cases hpower with
    | none hlower hupper =>
      split
      · exact absurd rfl hpoint
      · exact absurd rfl hlower
      · exact absurd rfl hupper
      split
      · exact .inl ⟨_, rfl⟩
      · exact findsNumber_scaledNumber _ _ _ _
    | some hmark hsign hdigits =>
      rcases hmark with rfl | rfl
      all_goals exact findsNumber_readExponent hsign hdigits
  | fraction hwhole hplaces hpower =>
    obtain ⟨hc, hzero, hbehind⟩ := whole_cons_iff.1 hwhole
    simp only [hc, Bool.not_true, Bool.false_eq_true, if_false, if_neg hzero, hbehind]
    exact findsNumber_readFraction hplaces hpower

end Numbers

/-! ### What spoils a value -/

/-- Among the items there is one between these two places. -/
inductive HasItem : Bool → List Char → List Char → List Char → Prop where
  | here {first : Bool} {text value behind : List Char} : Opens first text value →
      Value value behind → HasItem first text value behind
  | later {first : Bool} {text earlier next value behind : List Char} : Opens first text earlier →
      Value earlier next → HasItem false next value behind → HasItem first text value behind

/-- The value cannot be a tree with no more than so many brackets inside each other. -/
inductive Spoiled : Nat → List Char → List Char → Prop where
  | positive {depth : Nat} {text digits rest : List Char} : Gap text digits →
      Unsigned digits rest → OutOfRange false digits → Spoiled depth text rest
  | negative {depth : Nat} {text digits rest : List Char} : Gap text ('-' :: digits) →
      Unsigned digits rest → OutOfRange true digits → Spoiled depth text rest
  | string {depth : Nat} {text quoted rest : List Char} : Gap text ('"' :: quoted) →
      Literal quoted rest → (∀ s, ¬Spelled quoted s rest) → Spoiled depth text rest
  | deepArray {text body rest : List Char} : Gap text ('[' :: body) →
      Derives (.items true) body rest → Spoiled 0 text rest
  | deepObject {members : List Member} {text rest : List Char} : Object text members rest →
      Spoiled 0 text rest
  | item {depth : Nat} {text body value behind rest : List Char} : Gap text ('[' :: body) →
      Derives (.items true) body rest → HasItem true body value behind →
      Spoiled depth value behind → Spoiled (depth + 1) text rest
  | key {depth : Nat} {members : List Member} {m : Member} {text rest : List Char} :
      Object text members rest → m ∈ members → (∀ name, ¬m.IsNamed name) →
      Spoiled (depth + 1) text rest
  | member {depth : Nat} {members : List Member} {m : Member} {text rest : List Char} :
      Object text members rest → m ∈ members → Spoiled depth m.value m.rest →
      Spoiled (depth + 1) text rest

/-- The name of the member is no text, or its value is spoiled. -/
def Member.IsSpoiled (depth : Nat) (m : Member) : Prop :=
  (∀ name, ¬m.IsNamed name) ∨ Spoiled depth m.value m.rest

section Spoiled

variable {depth : Nat} {first : Bool} {text value behind rest : List Char}

/-! ### What is spoiled denotes nothing -/

/-- Where an item begins, the first of those that are denoted begins. -/
theorem DenoteItems.of_opens {reader : List Char → Read (Json × List Char)}
    {denotes : List Char → Json → List Char → Prop} (h : Decides reader denotes)
    {items : List Json} (hitems : DenoteItems denotes first text items rest)
    (hopens : Opens first text value) (hvalue : Value value behind) :
    ∃ j others, denotes value j behind ∧ DenoteItems denotes false behind others rest := by
  have hnext := nextItem_of_opens hopens hvalue
  cases hitems with
  | nil hgap =>
    rw [nextItem, (gap_cons_iff (by decide)).1 hgap] at hnext
    cases hnext
  | @cons _ _ other left _ j others hother hdenoted hothers =>
    rw [nextItem_of_opens hother (h.value hdenoted)] at hnext
    have hstart : skipSpace other = skipSpace value := Next.more.inj (Except.ok.inj hnext)
    have hread := h.reads_iff.2 hdenoted
    rw [← h.space.skipSpace_eq, hstart, h.space.skipSpace_eq, h.reads_iff] at hread
    obtain rfl := hvalue.rest_eq (h.value hread)
    exact ⟨j, others, hread, hothers⟩

theorem HasItem.exists_denoted {reader : List Char → Read (Json × List Char)}
    {denotes : List Char → Json → List Char → Prop} (h : Decides reader denotes)
    (hitem : HasItem first text value behind) {items : List Json}
    (hitems : DenoteItems denotes first text items rest) : ∃ j, denotes value j behind := by
  induction hitem generalizing items with
  | here hopens hvalue =>
    obtain ⟨j, _, hdenoted, _⟩ := hitems.of_opens h hopens hvalue
    exact ⟨j, hdenoted⟩
  | later hopens hvalue _ ih =>
    obtain ⟨_, _, _, hothers⟩ := hitems.of_opens h hopens hvalue
    exact ih hothers

theorem not_denotes_of_spoiled (h : Spoiled depth text rest) {j : Json} {left : List Char} :
    ¬Denotes depth text j left := by
  rw [← readTree_eq_ok_iff, ← (skipsSpace_readTree depth).skipSpace_eq]
  intro hread
  induction h generalizing j left with
  | positive hgap hdigits hrange =>
    obtain ⟨c, after, rfl, hc⟩ := hdigits.exists_cons
    obtain ⟨_, hflaw⟩ := hrange
    rw [(gap_cons_iff (isSpace_of_isDigit hc)).1 hgap, readTree_digit hc, hflaw] at hread
    cases hread
  | negative hgap hdigits hrange =>
    obtain ⟨_, hflaw⟩ := hrange
    rw [(gap_cons_iff (by decide)).1 hgap, readTree_minus, hflaw] at hread
    cases hread
  | string hgap hliteral hnone =>
    rw [(gap_cons_iff (by decide)).1 hgap, readTree_quote] at hread
    obtain ⟨s, htext, rfl⟩ := exists_of_mapValue_eq_ok hread
    have hspelled := readText_eq_ok_iff.1 htext
    obtain rfl := hliteral.rest_eq hspelled.literal
    exact hnone _ hspelled
  | deepArray hgap =>
    rw [(gap_cons_iff (by decide)).1 hgap] at hread
    cases hread
  | deepObject hobject =>
    obtain ⟨body, hgap, -⟩ := hobject
    rw [(gap_cons_iff (by decide)).1 hgap] at hread
    cases hread
  | item hgap _ hitem _ ih =>
    rw [(gap_cons_iff (by decide)).1 hgap, readTree_bracket] at hread
    obtain ⟨items, hitems, rfl⟩ := exists_of_mapValue_eq_ok hread
    have hdenoted := (readItemsFrom_eq_ok_iff (decides_readTree _) (Nat.lt_succ_self _)).1 hitems
    obtain ⟨j, hj⟩ := hitem.exists_denoted (decides_readTree _) hdenoted
    rw [← readTree_eq_ok_iff, ← (skipsSpace_readTree _).skipSpace_eq] at hj
    exact ih hj
  | key hobject hmember hname =>
    rw [(skipsSpace_readTree _).skipSpace_eq] at hread
    obtain ⟨-, entries, hentries, -⟩ := (readTree_object_iff hobject).1 hread
    obtain ⟨entry, _, hnamed, _⟩ := exists_right_of_forall₂ hentries hmember
    exact hname _ hnamed
  | member hobject hmember _ ih =>
    rw [(skipsSpace_readTree _).skipSpace_eq] at hread
    obtain ⟨-, entries, hentries, -⟩ := (readTree_object_iff hobject).1 hread
    obtain ⟨entry, _, _, hdenoted⟩ := exists_right_of_forall₂ hentries hmember
    rw [← readTree_eq_ok_iff, ← (skipsSpace_readTree _).skipSpace_eq] at hdenoted
    exact ih hdenoted

theorem not_isSpoiled_of_denoteMembers {members : List Member} {entries : List (String × Json)}
    (h : DenoteMembers (Denotes depth) members entries) {m : Member} (hm : m ∈ members) :
    ¬m.IsSpoiled depth := by
  obtain ⟨entry, _, hnamed, hdenoted⟩ := exists_right_of_forall₂ h hm
  rintro (hname | hspoiled)
  · exact hname _ hnamed
  · exact not_denotes_of_spoiled hspoiled hdenoted

/-! ### What is not spoiled denotes a tree -/

/-- A phrase denotes something at each depth, or it is spoiled there. -/
def Phrase.IsJudged (p : Phrase) (text rest : List Char) : Prop :=
  ∀ depth,
    match p with
    | .value => (∃ j, Denotes depth text j rest) ∨ Spoiled depth text rest
    | .items first => (∃ items, DenoteItems (Denotes depth) first text items rest) ∨
        ∃ value behind, HasItem first text value behind ∧ Spoiled depth value behind
    | .members _ listed => (∃ entries, DenoteMembers (Denotes depth) listed entries) ∨
        ∃ m ∈ listed, m.IsSpoiled depth

theorem isJudged_number {negative : Bool} {digits : List Char}
    (hdigits : Unsigned digits rest)
    (hdenotes : ∀ n, readNumber negative digits = .ok (n, rest) → DenotesNumber text n rest)
    (hspoiled : ∀ depth, OutOfRange negative digits → Spoiled depth text rest) :
    Phrase.value.IsJudged text rest := by
  intro depth
  rcases findsNumber_readNumber negative hdigits with ⟨n, hn⟩ | hrange
  · exact .inl ⟨.number n, denotes_number_iff.2 (hdenotes n hn)⟩
  · exact .inr (hspoiled depth hrange)

theorem isJudged_string {quoted : List Char} (hgap : Gap text ('"' :: quoted))
    (hliteral : Literal quoted rest) : Phrase.value.IsJudged text rest := by
  intro depth
  by_cases hspelled : ∃ s, Spelled quoted s rest
  · obtain ⟨s, hs⟩ := hspelled
    exact .inl ⟨.string s, denotes_string_iff.2 ⟨quoted, hgap, hs⟩⟩
  · exact .inr (.string hgap hliteral (not_exists.1 hspelled))

theorem isJudged_array {body : List Char} (hgap : Gap text ('[' :: body))
    (hbody : Derives (.items true) body rest) (ih : (Phrase.items true).IsJudged body rest) :
    Phrase.value.IsJudged text rest := by
  intro depth
  cases depth with
  | zero => exact .inr (.deepArray hgap hbody)
  | succ depth =>
    rcases ih depth with ⟨items, hitems⟩ | ⟨value, behind, hitem, hspoiled⟩
    · exact .inl ⟨.array items, body, hgap, hitems⟩
    · exact .inr (.item hgap hbody hitem hspoiled)

theorem isJudged_object {body : List Char} {members : List Member} (hgap : Gap text ('{' :: body))
    (hbody : Derives (.members true members) body rest)
    (ih : (Phrase.members true members).IsJudged body rest) : Phrase.value.IsJudged text rest := by
  intro depth
  have hobject : Object text members rest := ⟨body, hgap, hbody⟩
  cases depth with
  | zero => exact .inr (.deepObject hobject)
  | succ depth =>
    rcases ih depth with ⟨entries, hentries⟩ | ⟨m, hm, hname | hspoiled⟩
    · exact .inl ⟨.object _, members, entries, hobject, hentries, rfl⟩
    · exact .inr (.key hobject hm hname)
    · exact .inr (.member hobject hm hspoiled)

theorem isJudged_item (hopens : Opens first text value) (hvalue : Value value behind)
    (ih : Phrase.value.IsJudged value behind) (ihs : (Phrase.items false).IsJudged behind rest) :
    (Phrase.items first).IsJudged text rest := by
  intro depth
  rcases ih depth with ⟨j, hj⟩ | hspoiled
  · rcases ihs depth with ⟨items, hitems⟩ | ⟨other, left, hitem, hspoiled⟩
    · exact .inl ⟨j :: items, .cons hopens hj hitems⟩
    · exact .inr ⟨other, left, .later hopens hvalue hitem, hspoiled⟩
  · exact .inr ⟨value, behind, .here hopens hvalue, hspoiled⟩

theorem isJudged_member {m : Member} {members : List Member}
    (ih : Phrase.value.IsJudged m.value m.rest)
    (ihs : (Phrase.members false members).IsJudged m.rest rest) :
    (Phrase.members first (m :: members)).IsJudged text rest := by
  intro depth
  by_cases hspoiled : m.IsSpoiled depth
  · exact .inr ⟨m, List.mem_cons_self, hspoiled⟩
  rw [Member.IsSpoiled, not_or, not_forall_not] at hspoiled
  obtain ⟨⟨name, hname⟩, hvalue⟩ := hspoiled
  obtain ⟨j, hj⟩ := (ih depth).resolve_right hvalue
  rcases ihs depth with ⟨entries, hentries⟩ | ⟨other, hother, hspoiled⟩
  · exact .inl ⟨(name, j) :: entries, .cons ⟨hname, hj⟩ hentries⟩
  · exact .inr ⟨other, List.mem_cons_of_mem _ hother, hspoiled⟩

theorem isJudged_of_derives {p : Phrase} (h : Derives p text rest) : p.IsJudged text rest := by
  induction h with
  | null hgap => exact fun _ => .inl ⟨.null, denotes_null_iff.2 hgap⟩
  | yes hgap => exact fun _ => .inl ⟨.boolean true, denotes_boolean_iff.2 hgap⟩
  | no hgap => exact fun _ => .inl ⟨.boolean false, denotes_boolean_iff.2 hgap⟩
  | positive hgap hdigits =>
    exact isJudged_number hdigits (fun _ => .positive hgap hdigits)
      (fun _ => .positive hgap hdigits)
  | negative hgap hdigits =>
    exact isJudged_number hdigits (fun _ => .negative hgap hdigits)
      (fun _ => .negative hgap hdigits)
  | string hgap hliteral => exact isJudged_string hgap hliteral
  | array hgap hbody ih => exact isJudged_array hgap hbody ih
  | object hgap hbody ih => exact isJudged_object hgap hbody ih
  | noItem hgap => exact fun _ => .inl ⟨[], .nil hgap⟩
  | item hopens hvalue _ ih ihs => exact isJudged_item hopens hvalue ih ihs
  | noMember => exact fun _ => .inl ⟨[], .nil⟩
  | member _ _ _ _ _ _ ih ihs => exact isJudged_member ih ihs

/-- A value denotes a tree exactly when it is not spoiled. -/
theorem exists_denotes_iff (h : Value text rest) :
    (∃ j, Denotes depth text j rest) ↔ ¬Spoiled depth text rest := by
  constructor
  · rintro ⟨j, hj⟩ hspoiled
    exact not_denotes_of_spoiled hspoiled hj
  · exact (isJudged_of_derives h depth).resolve_right

/-- The members of an object denote something exactly when none of them is spoiled. -/
theorem exists_denoteMembers_iff {members : List Member} (h : Object text members rest) :
    (∃ entries, DenoteMembers (Denotes depth) members entries) ↔
      ∀ m ∈ members, ¬m.IsSpoiled depth := by
  obtain ⟨body, -, hmembers⟩ := h
  constructor
  · rintro ⟨entries, hentries⟩ m hm
    exact not_isSpoiled_of_denoteMembers hentries hm
  · intro hnone
    refine (isJudged_of_derives hmembers depth).resolve_right ?_
    rintro ⟨m, hm, hspoiled⟩
    exact hnone m hm hspoiled

end Spoiled

end SeriesQuery.Json
