import SeriesQuery.Proofs.Json.Brackets
import SeriesQuery.Proofs.Json.Numeral

/-!
# Printed trees are read back

The text of a tree without doubles denotes the same tree with the members of its objects in order.
This holds for each layout that sets the parts apart by white space, and for every text that comes
after the value.
-/

namespace SeriesQuery.Json

/-- A tree of words, strings and integers, with brackets nested at most `depth` deep. -/
inductive Plain : Nat → Json → Prop where
  | null {depth : Nat} : Plain depth .null
  | boolean {depth : Nat} (b : Bool) : Plain depth (.boolean b)
  | integer {depth : Nat} (n : Int) (h : IsWord n) : Plain depth (.number (.integer n h))
  | string {depth : Nat} (s : String) : Plain depth (.string s)
  | array {depth : Nat} {items : List Json} :
      (∀ item ∈ items, Plain depth item) → Plain (depth + 1) (.array items)
  | object {depth : Nat} {members : List (String × Json)} :
      (∀ member ∈ members, Plain depth member.2) → Plain (depth + 1) (.object members)

theorem Plain.map {α : Type} {f : α → Json} {depth : Nat} (h : ∀ a, Plain depth (f a))
    (values : List α) : Plain (depth + 1) (.array (values.map f)) := by
  apply Plain.array
  intro item hitem
  obtain ⟨a, _, rfl⟩ := List.mem_map.1 hitem
  exact h a

theorem Plain.pair {a b : String} {v w : Json} {depth : Nat} (hv : Plain depth v)
    (hw : Plain depth w) : Plain (depth + 1) (.object [(a, v), (b, w)]) := by
  apply Plain.object
  intro member hmember
  rcases List.mem_cons.1 hmember with rfl | hmember
  · exact hv
  · obtain rfl := List.mem_singleton.1 hmember
    exact hw

theorem Plain.mono {allowed bound : Nat} {j : Json} (h : Plain allowed j) (hle : allowed ≤ bound) :
    Plain bound j := by
  induction h generalizing bound with
  | null => exact .null
  | boolean b => exact .boolean b
  | integer n h => exact .integer n h
  | string s => exact .string s
  | array _ ih =>
    obtain ⟨bound, rfl⟩ := Nat.exists_eq_succ_of_ne_zero (Nat.ne_zero_of_lt hle)
    exact .array fun item hitem => ih item hitem (Nat.le_of_succ_le_succ hle)
  | object _ ih =>
    obtain ⟨bound, rfl⟩ := Nat.exists_eq_succ_of_ne_zero (Nat.ne_zero_of_lt hle)
    exact .object fun member hmember => ih member hmember (Nat.le_of_succ_le_succ hle)

theorem isSpace_of_isDigit {c : Char} (hc : isDigit c) : isSpace c = false := by
  simp [isSpace, isDigit_ne hc (show isDigit ' ' = false by decide),
    isDigit_ne hc (show isDigit '\n' = false by decide),
    isDigit_ne hc (show isDigit '\t' = false by decide),
    isDigit_ne hc (show isDigit '\r' = false by decide)]

theorem beginsItem_written {allowed : Nat} {j : Json} (h : Plain allowed j) (layout : Layout)
    (depth : Nat) : BeginsItem (j.written layout depth) := by
  cases h with
  | null => exact ⟨'n', _, by rw [written], by decide, by decide⟩
  | boolean b =>
    cases b
    · exact ⟨'f', _, by rw [written, boolWord], by decide, by decide⟩
    · exact ⟨'t', _, by rw [written, boolWord], by decide, by decide⟩
  | integer n h =>
    cases n with
    | ofNat n =>
      obtain ⟨c, rest, hdigits, hc⟩ := exists_toDigits_cons n
      refine ⟨c, rest, ?_, isSpace_of_isDigit hc, isDigit_ne hc (by decide)⟩
      rw [written, Number.digits, integerDigits, hdigits]
    | negSucc n =>
      exact ⟨'-', _, by rw [written, Number.digits, integerDigits], by decide, by decide⟩
  | string s => exact ⟨'"', _, by rw [written, quote, List.cons_append], by decide, by decide⟩
  | @array _ items _ =>
    cases items with
    | nil => exact ⟨'[', _, by rw [written], by decide, by decide⟩
    | cons item items =>
      exact ⟨'[', _, by rw [written, List.cons_append, List.cons_append], by decide, by decide⟩
  | @object _ members _ =>
    cases members with
    | nil => exact ⟨'{', _, by rw [written], by decide, by decide⟩
    | cons first members =>
      obtain ⟨name, value⟩ := first
      exact ⟨'{', _, by simp only [written, List.cons_append]; rfl, by decide, by decide⟩

/-! ### The reader at a first character -/

theorem skipsSpace_readTree (allowed : Nat) : SkipsSpace (readTree allowed) := by
  intro gap hgap text
  rw [readTree.eq_def allowed (gap ++ text), readTree.eq_def allowed text, skipSpace_append hgap]

theorem readTree_digit {c : Char} (hc : isDigit c) (allowed : Nat) (rest : List Char) :
    readTree allowed (c :: rest) = mapValue Json.number (readNumber false (c :: rest)) := by
  rw [readTree.eq_def, skipSpace_cons (isSpace_of_isDigit hc)]
  split
  case h_1 heq => cases heq
  case h_9 heq =>
    obtain ⟨rfl, rfl⟩ := List.cons.inj heq
    rw [if_pos hc]
  -- No word, no string, no bracket and no minus begins with a digit.
  all_goals
    rename_i heq
    exact absurd (List.cons.inj heq).1 (isDigit_ne hc (by decide))

theorem readTree_minus (allowed : Nat) (rest : List Char) :
    readTree allowed ('-' :: rest) = mapValue Json.number (readNumber true rest) := by
  rw [readTree.eq_def]
  rfl

theorem readTree_quote (allowed : Nat) (rest : List Char) :
    readTree allowed ('"' :: rest) =
      mapValue (fun s => .string (String.ofList s)) (readText rest) := by
  rw [readTree.eq_def]
  rfl

theorem readTree_bracket (allowed : Nat) (rest : List Char) :
    readTree (allowed + 1) ('[' :: rest) =
      mapValue Json.array (readItems (readTree allowed) rest) := by
  rw [readTree.eq_def]
  rfl

theorem readTree_brace (allowed : Nat) (rest : List Char) :
    readTree (allowed + 1) ('{' :: rest) =
      mapValue Json.object (readMembers (readTreeMember (readTree allowed)) [] rest) := by
  rw [readTree.eq_def]
  rfl

/-! ### Whole trees -/

theorem wholeNumber_ofNat {n : Nat} (h : IsWord (Int.ofNat n)) :
    wholeNumber false n = .integer (Int.ofNat n) h := by
  have hword : IsWord (n : Int) := h
  unfold wholeNumber
  simp only [Bool.false_eq_true, if_false, false_and, not_false_eq_true, and_true]
  rw [dif_pos hword]
  rfl

theorem wholeNumber_negSucc {n : Nat} (h : IsWord (Int.negSucc n)) :
    wholeNumber true (n + 1) = .integer (Int.negSucc n) h := by
  have hword : IsWord (-((n + 1 : Nat) : Int)) := h
  unfold wholeNumber
  simp only [if_true, true_and, Nat.succ_ne_zero, not_false_eq_true, and_true]
  rw [dif_pos hword]
  rfl

/-- A printed word is digits or a minus and digits, and the digits are read back. -/
theorem readNumber_integerDigits {n : Int} (h : IsWord n) :
    (∃ c more, integerDigits n = c :: more ∧ isDigit c ∧
      Reads (readNumber false) (c :: more) (.integer n h)) ∨
    (∃ digits, integerDigits n = '-' :: digits ∧ Reads (readNumber true) digits (.integer n h)) := by
  have hword := h
  rw [IsWord] at hword
  cases n with
  | ofNat n =>
    have hn : n ≤ significandLimit := by
      rw [Int.ofNat_eq_natCast] at hword
      rw [significandLimit]
      omega
    obtain ⟨c, more, hdigits, hc⟩ := exists_toDigits_cons n
    have hread := readNumber_toDigits hn false
    rw [hdigits, wholeNumber_ofNat h] at hread
    exact .inl ⟨c, more, by rw [integerDigits, hdigits], hc, hread⟩
  | negSucc n =>
    have hn : n + 1 ≤ significandLimit := by
      rw [Int.negSucc_eq] at hword
      rw [significandLimit]
      omega
    have hread := readNumber_toDigits hn true
    rw [wholeNumber_negSucc h] at hread
    exact .inr ⟨Nat.toDigits 10 (n + 1), by rw [integerDigits], hread⟩

theorem readTree_integerDigits {n : Int} (h : IsWord n) (allowed : Nat) :
    Reads (readTree allowed) (integerDigits n) (.number (.integer n h)) := by
  intro rest hrest
  rcases readNumber_integerDigits h with ⟨c, more, hdigits, hc, hread⟩ | ⟨digits, hdigits, hread⟩
  · have hnumber := hread rest hrest
    rw [List.cons_append] at hnumber
    rw [hdigits, List.cons_append, readTree_digit hc, hnumber]
    rfl
  · rw [hdigits, List.cons_append, readTree_minus, hread rest hrest]
    rfl

/-- In an object in order a name has the last of its values. -/
theorem lookup_sortEntries (members sorted : List (String × Json)) (name : String) :
    (sortEntries members sorted).lookup name =
      ((members.reverse.lookup name).map sortMembers).or (sorted.lookup name) := by
  induction members generalizing sorted with
  | nil => rfl
  | cons first rest ih =>
    rw [sortEntries, ih, List.reverse_cons, List.lookup_append, SortedMap.lookup_insertEntry,
      SortedMap.lookup_entry, List.lookup_nil]
    cases rest.reverse.lookup name with
    | some value => rfl
    | none =>
      by_cases hname : name = first.1
      · rw [if_pos hname, if_pos hname]
        rfl
      · rw [if_neg hname, if_neg hname]
        rfl

theorem sortEntries_eq_append {sorted members : List (String × Json)}
    (hascending : SortedMap.Ascending (sorted ++ members))
    (hvalues : ∀ member ∈ members, member.2.sortMembers = member.2) :
    sortEntries members sorted = sorted ++ members := by
  induction members generalizing sorted with
  | nil => rw [sortEntries, List.append_nil]
  | cons first rest ih =>
    obtain ⟨hfirst, hrest⟩ := List.forall_mem_cons.1 hvalues
    have hlast : ∀ entry ∈ sorted, entry.1 < first.1 := fun entry hentry =>
      (List.pairwise_append.1 hascending).2.2 entry hentry first List.mem_cons_self
    have hsorted : sorted ++ first :: rest = sorted ++ [first] ++ rest := by
      rw [List.append_assoc, List.singleton_append]
    rw [sortEntries, hfirst, SortedMap.insertEntry_of_forall_lt hlast, hsorted]
    rw [hsorted] at hascending
    exact ih hascending hrest

/-- An object that is in order already stays as it is. -/
theorem sortMembers_object {members : List (String × Json)}
    (hascending : SortedMap.Ascending members)
    (hvalues : ∀ member ∈ members, member.2.sortMembers = member.2) :
    (Json.object members).sortMembers = .object members :=
  congrArg Json.object (sortEntries_eq_append hascending hvalues)

theorem sortMembers_pair {a b : String} {v w : Json} (hab : a < b) (hv : v.sortMembers = v)
    (hw : w.sortMembers = w) :
    (Json.object [(a, v), (b, w)]).sortMembers = .object [(a, v), (b, w)] := by
  apply sortMembers_object
  · exact List.pairwise_pair.2 hab
  · intro member hmember
    rcases List.mem_cons.1 hmember with rfl | hmember
    · exact hv
    · obtain rfl := List.mem_singleton.1 hmember
      exact hw

theorem sortItems_map {α : Type} {f : α → Json} (h : ∀ a, (f a).sortMembers = f a)
    (values : List α) : sortItems (values.map f) = values.map f := by
  induction values with
  | nil => rfl
  | cons a rest ih => rw [List.map_cons, sortItems, h, ih]

theorem forall₂_sortItems {P : Json → Json → Prop} {items : List Json}
    (h : ∀ item ∈ items, P item item.sortMembers) : List.Forall₂ P items (sortItems items) := by
  induction items with
  | nil => exact .nil
  | cons item items ih =>
    obtain ⟨hitem, hitems⟩ := List.forall_mem_cons.1 h
    exact .cons hitem (ih hitems)

theorem readColon_append {gap : List Char} (hgap : ∀ c ∈ gap, isSpace c) (text : List Char) :
    readColon (gap ++ ':' :: text) = .ok text := by
  rw [readColon, skipSpace_append hgap, skipSpace_cons (by decide)]
  rfl

theorem readColon_cons (text : List Char) : readColon (':' :: text) = .ok text :=
  readColon_append (List.forall_mem_nil _) text

theorem readTreeMember_written {layout : Layout} (hlayout : layout.Blank)
    {value : List Char → Read (Json × List Char)} {text : List Char} {j : Json}
    (hspace : SkipsSpace value)
    (h : Reads value text j) (members : List (String × Json)) (name : String) :
    Reads (readTreeMember value members name) (':' :: (layout.afterColon ++ text))
      (SortedMap.insertEntry name j members) := by
  intro rest hrest
  rw [List.cons_append, List.append_assoc, readTreeMember]
  simp only [bind, Except.bind, readColon_cons, hspace _ hlayout.afterColon, h rest hrest]
  rfl

theorem readsMembers_sortEntries {layout : Layout} (hlayout : layout.Blank) {depth : Nat}
    {value : List Char → Read (Json × List Char)} {members : List (String × Json)}
    (hspace : SkipsSpace value)
    (h : ∀ member ∈ members, Reads value (member.2.written layout depth) member.2.sortMembers)
    (sorted : List (String × Json)) :
    ReadsMembers layout depth (readTreeMember value) sorted members
      (sortEntries members sorted) := by
  induction members generalizing sorted with
  | nil => exact .nil
  | cons first members ih =>
    obtain ⟨hfirst, hrest⟩ := List.forall_mem_cons.1 h
    exact .cons (readTreeMember_written hlayout hspace hfirst sorted first.1) (ih hrest _)

/-- A printed tree is read back with its members in order. -/
theorem readTree_written {layout : Layout} (hlayout : layout.Blank) {allowed : Nat} {j : Json}
    (h : Plain allowed j) (depth : Nat) :
    Reads (readTree allowed) (j.written layout depth) j.sortMembers := by
  induction h generalizing depth with
  | null =>
    intro rest _
    rw [written, readTree.eq_def]
    rfl
  | boolean b =>
    intro rest _
    rw [written, readTree.eq_def]
    cases b <;> rfl
  | integer n h => exact readTree_integerDigits h _
  | string s =>
    intro rest _
    rw [written, quote_append, readTree_quote, readText_quoted, mapValue, String.ofList_toList]
    rfl
  | @array allowed items hitems ih =>
    intro rest _
    have hall : List.Forall₂ (ReadsItem layout (depth + 1) (readTree allowed)) items
        (sortItems items) := by
      apply forall₂_sortItems
      intro item hitem
      exact ⟨beginsItem_written (hitems item hitem) layout (depth + 1), ih item hitem (depth + 1)⟩
    obtain ⟨body, hbody, hread⟩ := readItems_written hlayout hall
    rw [hbody, List.cons_append, readTree_bracket, hread]
    rfl
  | @object allowed members hmembers ih =>
    intro rest _
    have hall : ReadsMembers layout (depth + 1) (readTreeMember (readTree allowed)) [] members
        (sortEntries members []) := by
      apply readsMembers_sortEntries hlayout (skipsSpace_readTree allowed)
      intro member hmember
      exact ih member hmember (depth + 1)
    obtain ⟨body, hbody, hread⟩ := readMembers_written hlayout hall
    rw [hbody, List.cons_append, readTree_brace, hread]
    rfl

/-- Reading a whole text that was printed gives the tree with its members in order. -/
theorem parse_written {layout : Layout} (hlayout : layout.Blank) {j : Json}
    (h : Plain depthLimit j) (depth : Nat) :
    parse (j.written layout depth) = .ok j.sortMembers :=
  readWhole_of_reads (readTree_written hlayout h depth)

theorem parse_compact {j : Json} (h : Plain depthLimit j) : parse j.compact = .ok j.sortMembers :=
  parse_written Layout.blank_compact h 0

end SeriesQuery.Json
