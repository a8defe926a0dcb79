import SeriesQuery.Proofs.Json.Member

/-!
# What a text denotes

A value that stands in a text denotes a tree, unless it holds a string with a surrogate that has no
partner, a number that is too large, or more brackets inside each other than are allowed. An object
denotes its members in the order of their names, and of one name the last. The reader of trees takes
exactly the values that denote something, for what they denote.
-/

namespace SeriesQuery.Json

/-- The number that the text begins with, with or without a minus sign. The digits of a number whose
magnitude is too large are read as none. -/
inductive DenotesNumber (text : List Char) (n : Number) (rest : List Char) : Prop where
  | positive {digits : List Char} : Gap text digits → Unsigned digits rest →
      readNumber false digits = .ok (n, rest) → DenotesNumber text n rest
  | negative {digits : List Char} : Gap text ('-' :: digits) → Unsigned digits rest →
      readNumber true digits = .ok (n, rest) → DenotesNumber text n rest

/-- The items of an array and what they denote. -/
inductive DenoteItems (denotes : List Char → Json → List Char → Prop) :
    Bool → List Char → List Json → List Char → Prop where
  | nil {first : Bool} {text rest : List Char} : Gap text (']' :: rest) →
      DenoteItems denotes first text [] rest
  | cons {first : Bool} {text value behind rest : List Char} {j : Json} {items : List Json} :
      Opens first text value → denotes value j behind →
      DenoteItems denotes false behind items rest →
      DenoteItems denotes first text (j :: items) rest

/-- The names of members and what their values denote. -/
def DenoteMembers (denotes : List Char → Json → List Char → Prop) (members : List Member)
    (entries : List (String × Json)) : Prop :=
  List.Forall₂ (fun m entry => m.IsNamed entry.1 ∧ denotes m.value entry.2 m.rest) members entries

/-- The tree that the text begins with, with no more than so many brackets inside each other. -/
def Denotes : Nat → List Char → Json → List Char → Prop
  | _, text, .null, rest => IsNull text rest
  | _, text, .boolean b, rest => Gap text (boolWord b ++ rest)
  | _, text, .number n, rest => DenotesNumber text n rest
  | _, text, .string s, rest => Quoted text s rest
  | 0, _, .array _, _ => False
  | depth + 1, text, .array items, rest =>
    ∃ body, Gap text ('[' :: body) ∧ DenoteItems (Denotes depth) true body items rest
  | 0, _, .object _, _ => False
  | depth + 1, text, .object sorted, rest =>
    ∃ members entries, Object text members rest ∧ DenoteMembers (Denotes depth) members entries ∧
      sorted = (SortedMap.ofList entries).entries

/-- The reader takes what denotes something, and nothing else. -/
structure Decides (reader : List Char → Read (Json × List Char))
    (denotes : List Char → Json → List Char → Prop) : Prop where
  space : SkipsSpace reader
  reads_iff {text rest : List Char} {j : Json} : reader text = .ok (j, rest) ↔ denotes text j rest
  value {text rest : List Char} {j : Json} : denotes text j rest → Value text rest

section Brackets

variable {reader : List Char → Read (Json × List Char)}
  {denotes : List Char → Json → List Char → Prop} {first : Bool} {text rest : List Char}

/-! ### Items -/

theorem DenoteItems.derives (h : Decides reader denotes) {items : List Json}
    (hitems : DenoteItems denotes first text items rest) : Derives (.items first) text rest := by
  induction hitems with
  | nil hgap => exact .noItem hgap
  | cons hopens hvalue _ ih => exact .item hopens (h.value hvalue) ih

/-- A value begins neither with a closing bracket nor with nothing. -/
theorem Value.exists_cons (h : Value text rest) :
    ∃ c after, skipSpace text = c :: after ∧ c ≠ ']' := by
  cases h with
  | null hgap | yes hgap | no hgap | negative hgap | string hgap | array hgap | object hgap =>
    exact ⟨_, _, (gap_cons_iff (by decide)).1 hgap, by decide⟩
  | positive hgap hdigits =>
    obtain ⟨c, after, rfl, hc⟩ := hdigits.exists_cons
    exact ⟨c, after, (gap_cons_iff (isSpace_of_isDigit hc)).1 hgap, isDigit_ne hc (by decide)⟩

theorem nextItem_of_opens {value : List Char} (hopens : Opens first text value)
    (hvalue : Value value rest) : nextItem first text = .ok (.more (skipSpace value)) := by
  obtain ⟨c, after, hcons, hclose⟩ := hvalue.exists_cons
  cases first with
  | true =>
    obtain rfl : text = value := hopens
    rw [nextItem, hcons]
    split
    · rename_i heq
      cases heq
    · rename_i heq
      exact absurd (List.cons.inj heq).1 hclose
    · rename_i heq
      rw [if_pos rfl, heq]
  | false =>
    have hcomma : Gap text (',' :: value) := hopens
    rw [nextItem, (gap_cons_iff (by decide)).1 hcomma]
    simp [hcons, hclose]

theorem exists_opens_of_nextItem {body : List Char} (h : nextItem first text = .ok (.more body)) :
    ∃ value, Opens first text value ∧ body = skipSpace value := by
  rcases nextItem_eq_more h with ⟨rfl, rfl, -⟩ | ⟨rfl, value, hcomma, rfl⟩
  · exact ⟨text, rfl, rfl⟩
  · exact ⟨value, (gap_cons_iff (by decide)).2 hcomma, rfl⟩

theorem readItemsFrom_eq_ok_iff (h : Decides reader denotes) {bound : Nat} {items : List Json}
    (hbound : text.length < bound) :
    readItemsFrom reader bound first text = .ok (items, rest) ↔
      DenoteItems denotes first text items rest := by
  induction bound generalizing first text items with
  | zero => omega
  | succ bound ih =>
    -- Behind an item less is left of the text.
    have hbehind {value behind : List Char} {j : Json} (hopens : Opens first text value)
        (hvalue : denotes value j behind) : behind.length < bound := by
      have hopensless := hopens.length_le
      have hvalueless := (h.value hvalue).length_lt
      omega
    constructor
    · intro hread
      rcases readItemsFrom_cases hread with ⟨hnext, rfl⟩ |
        ⟨_, body, j, behind, others, hnext, hitem, hothers, hsucc, rfl⟩
      · exact .nil ((gap_cons_iff (by decide)).2 (nextItem_eq_finished hnext))
      · obtain rfl := Nat.succ.inj hsucc
        obtain ⟨value, hopens, rfl⟩ := exists_opens_of_nextItem hnext
        rw [h.space.skipSpace_eq, h.reads_iff] at hitem
        exact .cons hopens hitem ((ih (hbehind hopens hitem)).1 hothers)
    · intro hitems
      cases hitems with
      | nil hgap =>
        rw [readItemsFrom, nextItem, (gap_cons_iff (by decide)).1 hgap]
        rfl
      | cons hopens hvalue hothers =>
        have hitem := h.reads_iff.2 hvalue
        rw [← h.space.skipSpace_eq] at hitem
        rw [readItemsFrom, nextItem_of_opens hopens (h.value hvalue)]
        simp only [ok_bind, hitem, (ih (hbehind hopens hvalue)).2 hothers]
        rfl

/-! ### Members -/

/-- Puts a member behind those that are written before it. -/
def listMember (reader : List Char → Read (Json × List Char)) (entries : List (String × Json))
    (name : String) (text : List Char) : Read (List (String × Json) × List Char) := do
  let (value, rest) ← reader (← readColon text)
  return (entries ++ [(name, value)], rest)

def ListStep (denotes : List Char → Json → List Char → Prop) (entries : List (String × Json))
    (name : String) (m : Member) (next : List (String × Json)) : Prop :=
  ∃ j, denotes m.value j m.rest ∧ next = entries ++ [(name, j)]

theorem follows_listMember (h : Decides reader denotes) :
    Follows (listMember reader) (ListStep denotes) := by
  intro m colon hcolon hvalue entries name next left
  rw [listMember, readColon_eq_ok_iff.2 hcolon, ok_bind]
  constructor
  · intro hread
    obtain ⟨⟨j, behind⟩, hj, hread⟩ := exists_of_bind_eq_ok hread
    obtain ⟨rfl, rfl⟩ := Prod.mk.inj (Except.ok.inj hread)
    have hdenotes := h.reads_iff.1 hj
    obtain rfl := hvalue.rest_eq (h.value hdenotes)
    exact ⟨rfl, j, hdenotes, rfl⟩
  · rintro ⟨rfl, j, hdenotes, rfl⟩
    rw [h.reads_iff.2 hdenotes]
    rfl

theorem takesValue_listMember (h : Decides reader denotes) : TakesValue (listMember reader) := by
  intro entries next name text rest hread
  obtain ⟨value, hcolon, hread⟩ := exists_of_bind_eq_ok hread
  obtain ⟨⟨j, behind⟩, hj, hread⟩ := exists_of_bind_eq_ok hread
  obtain ⟨-, rfl⟩ := Prod.mk.inj (Except.ok.inj hread)
  exact ⟨value, readColon_eq_ok_iff.1 hcolon, h.value (h.reads_iff.1 hj)⟩

theorem along_listStep_iff {start final : List (String × Json)} {members : List Member} :
    Along (ListStep denotes) start members final ↔
      ∃ entries, final = start ++ entries ∧ DenoteMembers denotes members entries := by
  induction members generalizing start with
  | nil =>
    rw [along_nil_iff]
    constructor
    · rintro rfl
      exact ⟨[], (List.append_nil _).symm, .nil⟩
    · rintro ⟨entries, rfl, hentries⟩
      cases hentries
      exact List.append_nil start
  | cons m members ih =>
    constructor
    · intro halong
      cases halong with
      | cons hname hstep hrest =>
        obtain ⟨j, hj, rfl⟩ := hstep
        obtain ⟨entries, rfl, hentries⟩ := ih.1 hrest
        exact ⟨_ :: entries, List.append_assoc _ _ _, .cons ⟨hname, hj⟩ hentries⟩
    · rintro ⟨entries, rfl, hentries⟩
      cases hentries with
      | @cons _ entry _ entries hentry hentries =>
        have hlisted : start ++ entry :: entries = start ++ [entry] ++ entries := by simp
        exact .cons hentry.1 ⟨_, hentry.2, rfl⟩ (ih.2 ⟨entries, hlisted, hentries⟩)

/-- The members of an object are read for what they denote. -/
theorem readMembers_eq_ok_iff (h : Decides reader denotes) {members : List Member}
    (hmembers : Derives (.members true members) text rest) {entries : List (String × Json)}
    {left : List Char} :
    readMembers (listMember reader) [] text = .ok (entries, left) ↔
      left = rest ∧ DenoteMembers denotes members entries := by
  have hfewer : members.length < text.length + 1 :=
    Nat.lt_succ_of_lt (length_lt_of_derives hmembers)
  rw [readMembers, readMembersFrom_eq_ok_iff (follows_listMember h) hmembers hfewer,
    along_listStep_iff]
  simp only [List.nil_append, exists_eq_left']

theorem exists_members_of_readMembers (h : Decides reader denotes) {entries : List (String × Json)}
    (hread : readMembers (listMember reader) [] text = .ok (entries, rest)) :
    ∃ members, Derives (.members true members) text rest ∧
      DenoteMembers denotes members entries := by
  obtain ⟨members, hmembers⟩ := derives_of_readMembersFrom (takesValue_listMember h) hread
  exact ⟨members, hmembers, ((readMembers_eq_ok_iff h hmembers).1 hread).2⟩

end Brackets

/-! ### Objects in order -/

section Members

variable {σ τ : Type} {member : σ → String → List Char → Read (σ × List Char)}
  {other : τ → String → List Char → Read (τ × List Char)}

/-- Two readers of members whose states correspond member by member correspond at the end, and find
the same flaws. -/
theorem readMembersFrom_map {f : σ → τ}
    (h : ∀ state name text, other (f state) name text = mapValue f (member state name text))
    (bound : Nat) (first : Bool) (state : σ) (text : List Char) :
    readMembersFrom other bound first (f state) text =
      mapValue f (readMembersFrom member bound first state text) := by
  induction bound generalizing first state text with
  | zero => rfl
  | succ bound ih =>
    rw [readMembersFrom, readMembersFrom]
    cases nextKey first text with
    | error fault => rfl
    | ok next =>
      cases next with
      | finished rest => rfl
      | more key =>
        rw [ok_bind, ok_bind]
        dsimp only
        cases hname : readText key with
        | error fault => rfl
        | ok found =>
          obtain ⟨name, after⟩ := found
          rw [ok_bind, ok_bind]
          dsimp only
          rw [h]
          cases member state (String.ofList name) after with
          | error fault => rfl
          | ok found => exact ih false found.1 found.2

end Members

/-- Reading an object as a tree keeps its members in order, the last one of each name. -/
theorem readTreeMember_ofList (value : List Char → Read (Json × List Char))
    (members : List (String × Json)) (name : String) (text : List Char) :
    readTreeMember value (SortedMap.ofList members).entries name text =
      mapValue (fun listed => (SortedMap.ofList listed).entries)
        (listMember value members name text) := by
  rw [readTreeMember, listMember]
  cases readColon text with
  | error fault => rfl
  | ok body =>
    rw [ok_bind, ok_bind]
    cases value body with
    | error fault => rfl
    | ok found =>
      rw [ok_bind, ok_bind]
      simp only [mapValue, SortedMap.ofList, List.foldl_append, List.foldl_cons, List.foldl_nil,
        SortedMap.insert, pure, Except.pure]

theorem readMembers_ofList (value : List Char → Read (Json × List Char)) (text : List Char) :
    readMembers (readTreeMember value) [] text =
      mapValue (fun listed => (SortedMap.ofList listed).entries)
        (readMembers (listMember value) [] text) :=
  readMembersFrom_map (readTreeMember_ofList value) _ true [] text

/-! ### Trees -/

section Trees

variable {depth : Nat} {text rest : List Char} {j : Json}

theorem denotes_null_iff : Denotes depth text .null rest ↔ IsNull text rest := by
  rw [Denotes.eq_def]

theorem denotes_boolean_iff {b : Bool} :
    Denotes depth text (.boolean b) rest ↔ Gap text (boolWord b ++ rest) := by
  rw [Denotes.eq_def]

theorem denotes_number_iff {n : Number} :
    Denotes depth text (.number n) rest ↔ DenotesNumber text n rest := by
  rw [Denotes.eq_def]

theorem denotes_string_iff {s : String} :
    Denotes depth text (.string s) rest ↔ Quoted text s rest := by
  rw [Denotes.eq_def]

theorem DenotesNumber.value {n : Number} (h : DenotesNumber text n rest) : Value text rest := by
  cases h with
  | positive hgap hdigits => exact .positive hgap hdigits
  | negative hgap hdigits => exact .negative hgap hdigits

/-- What denotes a tree is a value. -/
theorem value_of_denotes
    (hinner : ∀ inner, depth = inner + 1 → Decides (readTree inner) (Denotes inner))
    (h : Denotes depth text j rest) : Value text rest := by
  cases j with
  | null => exact (denotes_null_iff.1 h).value
  | boolean b =>
    have hword := denotes_boolean_iff.1 h
    cases b
    · exact .no hword
    · exact .yes hword
  | number n => exact (denotes_number_iff.1 h).value
  | string s => exact (denotes_string_iff.1 h).value
  | array items =>
    cases depth with
    | zero => cases h
    | succ inner =>
      obtain ⟨body, hgap, hitems⟩ := h
      exact .array hgap (hitems.derives (hinner inner rfl))
  | object sorted =>
    cases depth with
    | zero => cases h
    | succ inner =>
      obtain ⟨members, entries, ⟨body, hgap, hmembers⟩, -⟩ := h
      exact .object hgap hmembers

theorem unsigned_of_readNumber {negative : Bool} {n : Number}
    (h : readNumber negative text = .ok (n, rest)) : Unsigned text rest :=
  skipNumber_eq_ok_iff.1 (skipNumber_of_readNumber h)

/-- What is read as a tree denotes it. -/
theorem denotes_of_readTree
    (hinner : ∀ inner, depth = inner + 1 → Decides (readTree inner) (Denotes inner))
    (h : readTree depth text = .ok (j, rest)) : Denotes depth text j rest := by
  rw [readTree.eq_def] at h
  split at h
  case h_1 => cases h
  case h_2 heq =>
    obtain ⟨rfl, hword⟩ := readWord_of_bind h
    rw [readWord_eq_ok_iff.1 hword] at heq
    exact denotes_null_iff.2 ((gap_cons_iff (by decide)).2 heq)
  case h_3 heq =>
    obtain ⟨rfl, hword⟩ := readWord_of_bind h
    rw [readWord_eq_ok_iff.1 hword] at heq
    exact denotes_boolean_iff.2 ((gap_cons_iff (by decide)).2 heq)
  case h_4 heq =>
    obtain ⟨rfl, hword⟩ := readWord_of_bind h
    rw [readWord_eq_ok_iff.1 hword] at heq
    exact denotes_boolean_iff.2 ((gap_cons_iff (by decide)).2 heq)
  case h_5 heq =>
    obtain ⟨n, hnumber, rfl⟩ := exists_of_mapValue_eq_ok h
    have hgap := (gap_cons_iff (by decide)).2 heq
    exact denotes_number_iff.2 (.negative hgap (unsigned_of_readNumber hnumber) hnumber)
  case h_6 heq =>
    obtain ⟨s, htext, rfl⟩ := exists_of_mapValue_eq_ok h
    exact denotes_string_iff.2 ⟨_, (gap_cons_iff (by decide)).2 heq, readText_eq_ok_iff.1 htext⟩
  case h_7 body heq =>
    cases depth with
    | zero => cases h
    | succ inner =>
      obtain ⟨items, hitems, rfl⟩ := exists_of_mapValue_eq_ok h
      have hdenoted :=
        (readItemsFrom_eq_ok_iff (hinner inner rfl) (Nat.lt_succ_self _)).1 hitems
      exact ⟨body, (gap_cons_iff (by decide)).2 heq, hdenoted⟩
  case h_8 body heq =>
    cases depth with
    | zero => cases h
    | succ inner =>
      obtain ⟨sorted, hsorted, rfl⟩ := exists_of_mapValue_eq_ok h
      rw [readMembers_ofList] at hsorted
      obtain ⟨entries, hentries, rfl⟩ := exists_of_mapValue_eq_ok hsorted
      obtain ⟨members, hmembers, hdenoted⟩ :=
        exists_members_of_readMembers (hinner inner rfl) hentries
      exact ⟨members, entries, ⟨body, (gap_cons_iff (by decide)).2 heq, hmembers⟩, hdenoted, rfl⟩
  case h_9 c after _ _ _ _ _ _ _ heq =>
    split at h
    · rename_i hc
      obtain ⟨n, hnumber, rfl⟩ := exists_of_mapValue_eq_ok h
      have hgap := (gap_cons_iff (isSpace_of_isDigit hc)).2 heq
      exact denotes_number_iff.2 (.positive hgap (unsigned_of_readNumber hnumber) hnumber)
    · cases h

/-- What denotes a tree is read as it. -/
theorem readTree_of_denotes
    (hinner : ∀ inner, depth = inner + 1 → Decides (readTree inner) (Denotes inner))
    (h : Denotes depth text j rest) : readTree depth text = .ok (j, rest) := by
  rw [← (skipsSpace_readTree depth).skipSpace_eq]
  cases j with
  | null =>
    rw [(gap_cons_iff (by decide)).1 (denotes_null_iff.1 h), readTree_null]
    rfl
  | boolean b =>
    have hword := denotes_boolean_iff.1 h
    cases b
    · rw [(gap_cons_iff (by decide)).1 hword, readTree_false]
      rfl
    · rw [(gap_cons_iff (by decide)).1 hword, readTree_true]
      rfl
  | number n =>
    cases denotes_number_iff.1 h with
    | positive hgap hdigits hread =>
      obtain ⟨c, after, rfl, hc⟩ := hdigits.exists_cons
      rw [(gap_cons_iff (isSpace_of_isDigit hc)).1 hgap, readTree_digit hc, hread]
      rfl
    | negative hgap hdigits hread =>
      rw [(gap_cons_iff (by decide)).1 hgap, readTree_minus, hread]
      rfl
  | string s =>
    obtain ⟨quoted, hgap, hspelled⟩ := denotes_string_iff.1 h
    rw [← String.ofList_toList (s := s), ← readText_eq_ok_iff] at hspelled
    rw [(gap_cons_iff (by decide)).1 hgap, readTree_quote, hspelled, mapValue, String.ofList_toList]
  | array items =>
    cases depth with
    | zero => cases h
    | succ inner =>
      obtain ⟨body, hgap, hitems⟩ := h
      have hread :=
        (readItemsFrom_eq_ok_iff (hinner inner rfl) (Nat.lt_succ_self _)).2 hitems
      rw [(gap_cons_iff (by decide)).1 hgap, readTree_bracket, readItems, hread]
      rfl
  | object sorted =>
    cases depth with
    | zero => cases h
    | succ inner =>
      obtain ⟨members, entries, ⟨body, hgap, hmembers⟩, hdenoted, rfl⟩ := h
      have hread := (readMembers_eq_ok_iff (hinner inner rfl) hmembers).2
        ⟨rfl, hdenoted⟩
      rw [(gap_cons_iff (by decide)).1 hgap, readTree_brace, readMembers_ofList, hread]
      rfl

theorem decides_readTree (depth : Nat) : Decides (readTree depth) (Denotes depth) := by
  have hstep (depth : Nat)
      (hinner : ∀ inner, depth = inner + 1 → Decides (readTree inner) (Denotes inner)) :
      Decides (readTree depth) (Denotes depth) :=
    ⟨skipsSpace_readTree depth, ⟨denotes_of_readTree hinner, readTree_of_denotes hinner⟩,
      value_of_denotes hinner⟩
  induction depth with
  | zero => exact hstep 0 fun _ h => nomatch h
  | succ depth ih => exact hstep (depth + 1) fun _ h => Nat.succ.inj h ▸ ih

/-- The reader of trees takes exactly what denotes a tree. -/
theorem readTree_eq_ok_iff : readTree depth text = .ok (j, rest) ↔ Denotes depth text j rest :=
  (decides_readTree depth).reads_iff

/-- An object is read for what its members denote, if all of them denote something. -/
theorem readTree_object_iff {members : List Member} (h : Object text members rest)
    {left : List Char} :
    readTree (depth + 1) text = .ok (j, left) ↔ left = rest ∧ ∃ entries,
      DenoteMembers (Denotes depth) members entries ∧
        j = .object (SortedMap.ofList entries).entries := by
  obtain ⟨body, hgap, hmembers⟩ := h
  have hread {entries : List (String × Json)} :
      readMembers (listMember (readTree depth)) [] body = .ok (entries, left) ↔
        left = rest ∧ DenoteMembers (Denotes depth) members entries :=
    readMembers_eq_ok_iff (decides_readTree depth) hmembers
  rw [← (skipsSpace_readTree (depth + 1)).skipSpace_eq, (gap_cons_iff (by decide)).1 hgap,
    readTree_brace, readMembers_ofList]
  constructor
  · intro h
    obtain ⟨sorted, hsorted, rfl⟩ := exists_of_mapValue_eq_ok h
    obtain ⟨entries, hentries, rfl⟩ := exists_of_mapValue_eq_ok hsorted
    obtain ⟨rfl, hdenoted⟩ := hread.1 hentries
    exact ⟨rfl, entries, hdenoted, rfl⟩
  · rintro ⟨rfl, entries, hdenoted, rfl⟩
    rw [hread.2 ⟨rfl, hdenoted⟩]
    rfl

/-- A whole text that is an object is read for what its members denote. -/
theorem parse_object_iff {members : List Member} (h : Object text members rest)
    (hrest : ∀ c ∈ rest, isSpace c) :
    parse text = .ok j ↔ ∃ entries, DenoteMembers (Denotes memberDepth) members entries ∧
      j = .object (SortedMap.ofList entries).entries := by
  rw [parse, depthLimit_eq, readWhole_eq_ok_iff]
  simp only [readTree_object_iff h]
  constructor
  · rintro ⟨left, ⟨-, hentries⟩, -⟩
    exact hentries
  · intro hentries
    exact ⟨rest, ⟨rfl, hentries⟩, hrest⟩

end Trees

end SeriesQuery.Json
