import SeriesQuery.Proofs.Json.Tree

/-!
# Trees on one line

Before a document is printed the members of its objects are put in order. Doing so twice is the same
as doing it once, and it keeps a tree plain, so what is read from the printed text is the ordered
document. The compact text of a tree has no control character in it, whatever its strings hold: the
printer writes those with a backslash. So the text is a line that nothing in the document can break.
-/

namespace SeriesQuery.Json

/-! ### Members in order -/

theorem sortItems_eq_map (items : List Json) : sortItems items = items.map sortMembers := by
  induction items with
  | nil => rfl
  | cons item rest ih => rw [sortItems, ih, List.map_cons]

/-- What stands among ordered members stood there before or is one of those put in. -/
theorem mem_sortEntries {members sorted : List (String × Json)} {entry : String × Json}
    (h : entry ∈ sortEntries members sorted) :
    entry ∈ sorted ∨ ∃ member ∈ members, entry = (member.1, member.2.sortMembers) := by
  induction members generalizing sorted with
  | nil => exact .inl h
  | cons first rest ih =>
    rw [sortEntries] at h
    rcases ih h with hsorted | ⟨member, hmember, hentry⟩
    · rcases SortedMap.mem_insertEntry hsorted with hfirst | hsorted
      · exact .inr ⟨first, List.mem_cons_self, hfirst⟩
      · exact .inl hsorted
    · exact .inr ⟨member, List.mem_cons_of_mem first hmember, hentry⟩

theorem ascending_sortEntries {members sorted : List (String × Json)}
    (h : SortedMap.Ascending sorted) : SortedMap.Ascending (sortEntries members sorted) := by
  induction members generalizing sorted with
  | nil => exact h
  | cons first rest ih =>
    rw [sortEntries]
    exact ih (SortedMap.ascending_insertEntry _ _ h)

theorem Plain.sortMembers {depth : Nat} {j : Json} (h : Plain depth j) :
    Plain depth j.sortMembers := by
  induction h with
  | null => exact .null
  | boolean b => exact .boolean b
  | integer n h => exact .integer n h
  | string s => exact .string s
  | array _ ih =>
    rw [Json.sortMembers, sortItems_eq_map]
    exact .array (List.forall_mem_map.2 ih)
  | object _ ih =>
    rw [Json.sortMembers]
    refine .object fun entry hentry => ?_
    rcases mem_sortEntries hentry with hnil | ⟨member, hmember, rfl⟩
    · exact absurd hnil List.not_mem_nil
    · exact ih member hmember

theorem Plain.sortMembers_sortMembers {depth : Nat} {j : Json} (h : Plain depth j) :
    j.sortMembers.sortMembers = j.sortMembers := by
  induction h with
  | null | boolean | integer | string => rfl
  | array _ ih =>
    rw [Json.sortMembers, Json.sortMembers, sortItems_eq_map, sortItems_eq_map, List.map_map]
    exact congrArg Json.array (List.map_congr_left ih)
  | object _ ih =>
    rw [Json.sortMembers]
    refine sortMembers_object (ascending_sortEntries .nil) fun entry hentry => ?_
    rcases mem_sortEntries hentry with hnil | ⟨member, hmember, rfl⟩
    · exact absurd hnil List.not_mem_nil
    · exact ih member hmember

/-! ### No control characters -/

/-- There is no control character in the text, so no line ends in it. -/
def Unbroken (text : List Char) : Prop := ∀ c ∈ text, 0x20 ≤ c.toNat

@[simp] theorem unbroken_nil : Unbroken [] := List.forall_mem_nil _

@[simp] theorem unbroken_cons {c : Char} {text : List Char} :
    Unbroken (c :: text) ↔ 0x20 ≤ c.toNat ∧ Unbroken text :=
  List.forall_mem_cons

@[simp] theorem unbroken_append {front back : List Char} :
    Unbroken (front ++ back) ↔ Unbroken front ∧ Unbroken back :=
  List.forall_mem_append

theorem unbroken_toDigits (n : Nat) : Unbroken (Nat.toDigits 10 n) := by
  intro c hc
  have hdigit := Nat.isDigit_of_mem_toDigits (by decide) (by decide) hc
  rw [Char.isDigit_iff_toNat] at hdigit
  exact Nat.le_trans (by decide) hdigit.1

theorem unbroken_integerDigits (n : Int) : Unbroken (integerDigits n) := by
  cases n with
  | ofNat n => exact unbroken_toDigits n
  | negSucc n => exact unbroken_cons.2 ⟨by decide, unbroken_toDigits (n + 1)⟩

theorem le_of_simpleEscape? {letter c : Char} (h : simpleEscape? letter = some c) :
    0x20 ≤ letter.toNat := by
  rw [simpleEscape?] at h
  split at h
  · rename_i hself
    rcases hself with rfl | rfl | rfl <;> decide
  repeat'
    split at h
    · rename_i hletter
      rw [hletter]
      decide
  cases h

theorem le_hexDigit {n : Nat} (h : n < 16) : 0x20 ≤ (hexDigit n).toNat := by
  have hall : ∀ n < 16, 0x20 ≤ (hexDigit n).toNat := by decide
  exact hall n h

theorem unbroken_escapeChar (c : Char) : Unbroken (escapeChar c) := by
  rcases escapeChar_cases c with ⟨letter, htext, hescape⟩ | ⟨hcontrol, htext⟩ |
      ⟨hprintable, _, _, htext⟩
  · have hletter := le_of_simpleEscape? hescape
    simp [htext, hletter]
  · have hhigh := le_hexDigit (show c.toNat / 16 < 16 by omega)
    have hlow := le_hexDigit (show c.toNat % 16 < 16 by omega)
    simp [htext, hhigh, hlow]
  · simp [htext, hprintable]

/-- A string is written without control characters, whatever characters it has. -/
theorem unbroken_quote (s : String) : Unbroken (quote s) := by
  have htext : Unbroken (s.toList.flatMap escapeChar) := by
    intro c hc
    obtain ⟨d, _, hd⟩ := List.mem_flatMap.1 hc
    exact unbroken_escapeChar d c hd
  simp [quote, htext]

@[simp] theorem Layout.line_compact (depth : Nat) : Layout.compact.line depth = [] := rfl

@[simp] theorem Layout.afterColon_compact : Layout.compact.afterColon = [] := rfl

theorem unbroken_writtenItems {depth : Nat} {items : List Json}
    (h : ∀ item ∈ items, Unbroken (item.written .compact (depth + 1))) :
    Unbroken (writtenItems .compact depth items) := by
  induction items with
  | nil => simp [writtenItems]
  | cons item rest ih =>
    obtain ⟨hitem, hrest⟩ := List.forall_mem_cons.1 h
    have hitems := ih hrest
    simp [writtenItems, hitem, hitems]

theorem unbroken_writtenMembers {depth : Nat} {members : List (String × Json)}
    (h : ∀ member ∈ members, Unbroken (member.2.written .compact (depth + 1))) :
    Unbroken (writtenMembers .compact depth members) := by
  induction members with
  | nil => simp [writtenMembers]
  | cons member rest ih =>
    obtain ⟨name, value⟩ := member
    obtain ⟨hvalue, hrest⟩ := List.forall_mem_cons.1 h
    have hmembers := ih hrest
    simp [writtenMembers, unbroken_quote, hvalue, hmembers]

/-- The compact text of a plain tree is a line. -/
theorem Plain.unbroken_written {allowed : Nat} {j : Json} (h : Plain allowed j) (depth : Nat) :
    Unbroken (j.written .compact depth) := by
  induction h generalizing depth with
  | null => simp [written]
  | boolean b => cases b <;> simp [written, boolWord]
  | integer n _ => exact written.eq_def _ _ _ ▸ unbroken_integerDigits n
  | string s => exact written.eq_def _ _ _ ▸ unbroken_quote s
  | @array _ items _ ih =>
    cases items with
    | nil => simp [written]
    | cons item rest =>
      obtain ⟨hitem, hrest⟩ := List.forall_mem_cons.1 fun item hitem => ih item hitem (depth + 1)
      simp [written, hitem, unbroken_writtenItems hrest]
  | @object _ members _ ih =>
    cases members with
    | nil => simp [written]
    | cons member rest =>
      obtain ⟨name, value⟩ := member
      obtain ⟨hvalue, hrest⟩ :=
        List.forall_mem_cons.1 fun member hmember => ih member hmember (depth + 1)
      simp [written, unbroken_quote, hvalue, unbroken_writtenMembers hrest]

theorem Plain.unbroken_compact {allowed : Nat} {j : Json} (h : Plain allowed j) :
    Unbroken j.compact :=
  h.unbroken_written 0

end SeriesQuery.Json
