import Mathlib.Data.List.Forall2
import Mathlib.Data.List.TakeWhile
import SeriesQuery.Json.Reader
import SeriesQuery.Proofs.Json.Lexical

/-!
# Printed arrays and objects are read back

What stands between the brackets is read back whatever the items are, as long as the reader of the
items reads each of them back; so the reader of trees and those of other types share these facts.
White space between the parts is skipped, and the length of the text bounds the number of items.
-/

namespace SeriesQuery.Json

/-- The layout sets the parts apart by white space only. -/
structure Layout.Blank (layout : Layout) : Prop where
  line : ∀ depth, ∀ c ∈ layout.line depth, isSpace c
  afterColon : ∀ c ∈ layout.afterColon, isSpace c

theorem Layout.blank_compact : Layout.compact.Blank :=
  ⟨fun _ _ h => absurd h List.not_mem_nil, fun _ h => absurd h List.not_mem_nil⟩

theorem Layout.blank_indented : Layout.indented.Blank := by
  constructor
  · intro depth c hc
    rcases List.mem_cons.1 hc with rfl | hc
    · rfl
    · rw [List.eq_of_mem_replicate hc]
      rfl
  · intro c hc
    rw [List.mem_singleton.1 hc]
    rfl

theorem endsNumber_of_isSpace {c : Char} (hc : isSpace c) (rest : List Char) :
    EndsNumber (c :: rest) := by
  refine endsNumber_cons rest ?_
  simp only [isSpace, Bool.or_eq_true, beq_iff_eq] at hc
  rcases hc with ((rfl | rfl) | rfl) | rfl <;> decide

theorem endsNumber_gap {gap : List Char} (hgap : ∀ c ∈ gap, isSpace c) {rest : List Char}
    (hrest : EndsNumber rest) : EndsNumber (gap ++ rest) := by
  cases gap with
  | nil => exact hrest
  | cons c gap => exact endsNumber_of_isSpace (hgap c List.mem_cons_self) (gap ++ rest)

/-- The depth that is left inside the brackets of a whole text. -/
def memberDepth : Nat := depthLimit - 1

theorem depthLimit_eq : depthLimit = memberDepth + 1 :=
  rfl

theorem skipSpace_eq_nil_iff {text : List Char} :
    skipSpace text = [] ↔ ∀ c ∈ text, isSpace c := by
  rw [skipSpace, List.dropWhile_eq_nil_iff]

/-- Only white space may stand behind a value that is a whole text. -/
theorem readWhole_eq_ok_iff {α : Type} {value : List Char → Read (α × List Char)}
    {text : List Char} {a : α} :
    readWhole value text = .ok a ↔ ∃ rest, value text = .ok (a, rest) ∧ ∀ c ∈ rest, isSpace c := by
  rw [readWhole]
  constructor
  · intro h
    obtain ⟨⟨found, rest⟩, hvalue, h⟩ := exists_of_bind_eq_ok h
    dsimp only at h
    split at h
    · rename_i hend
      obtain rfl := Except.ok.inj h
      exact ⟨rest, hvalue, skipSpace_eq_nil_iff.1 hend⟩
    · cases h
  · rintro ⟨rest, hvalue, hrest⟩
    simp only [hvalue, ok_bind, skipSpace_eq_nil_iff.2 hrest]
    rfl

theorem readWhole_append {α : Type} {reader : List Char → Read (α × List Char)} {text : List Char}
    {value : α} (h : Reads reader text value) {gap : List Char} (hgap : ∀ c ∈ gap, isSpace c) :
    readWhole reader (text ++ gap) = .ok value := by
  have hread := h _ (endsNumber_gap hgap endsNumber_nil)
  rw [List.append_nil] at hread
  exact readWhole_eq_ok_iff.2 ⟨gap, hread, hgap⟩

theorem readWhole_of_reads {α : Type} {reader : List Char → Read (α × List Char)}
    {text : List Char} {value : α} (h : Reads reader text value) :
    readWhole reader text = .ok value := by
  have hwhole := readWhole_append h (List.forall_mem_nil _)
  rwa [List.append_nil] at hwhole

section Arrays

variable {α : Type} {layout : Layout} {depth : Nat} {reader : List Char → Read (α × List Char)}

/-- The text begins with something that is neither white space nor the end of an array. -/
def BeginsItem (text : List Char) : Prop :=
  ∃ c rest, text = c :: rest ∧ isSpace c = false ∧ c ≠ ']'

/-- The printed item is seen to be one, and the reader takes it for the value. -/
structure ReadsItem (layout : Layout) (depth : Nat) (reader : List Char → Read (α × List Char))
    (item : Json) (value : α) : Prop where
  begins : BeginsItem (item.written layout depth)
  reads : Reads reader (item.written layout depth) value

theorem endsNumber_writtenItems (hlayout : layout.Blank) (depth : Nat) (items : List Json)
    (rest : List Char) : EndsNumber (writtenItems layout depth items ++ rest) := by
  cases items with
  | nil =>
    rw [writtenItems, List.append_assoc]
    exact endsNumber_gap (hlayout.line depth) (endsNumber_cons rest (by decide))
  | cons item items =>
    rw [writtenItems]
    exact endsNumber_cons _ (by decide)

theorem length_lt_writtenItems (layout : Layout) (depth : Nat) (items : List Json) :
    items.length < (writtenItems layout depth items).length := by
  induction items with
  | nil => simp [writtenItems]
  | cons item items ih =>
    simp only [writtenItems, List.length_cons, List.length_append]
    omega

theorem nextItem_first {gap text : List Char} (hgap : ∀ c ∈ gap, isSpace c)
    (h : BeginsItem text) (more : List Char) :
    nextItem true (gap ++ (text ++ more)) = .ok (.more (text ++ more)) := by
  obtain ⟨c, rest, rfl, hspace, hclose⟩ := h
  rw [nextItem, skipSpace_append hgap, List.cons_append, skipSpace_cons hspace]
  simp

theorem nextItem_comma {gap text : List Char} (hgap : ∀ c ∈ gap, isSpace c)
    (h : BeginsItem text) (more : List Char) :
    nextItem false (',' :: (gap ++ (text ++ more))) = .ok (.more (text ++ more)) := by
  obtain ⟨c, rest, rfl, hspace, hclose⟩ := h
  have hitem : skipSpace (gap ++ c :: (rest ++ more)) = c :: (rest ++ more) := by
    rw [skipSpace_append hgap, skipSpace_cons hspace]
  rw [List.cons_append, nextItem, skipSpace_cons (by decide)]
  simp [hitem, hclose]

theorem nextItem_close (first : Bool) {gap : List Char} (hgap : ∀ c ∈ gap, isSpace c)
    (rest : List Char) : nextItem first (gap ++ ']' :: rest) = .ok (.finished rest) := by
  rw [nextItem, skipSpace_append hgap, skipSpace_cons (by decide)]
  rfl

theorem readItemsFrom_written (hlayout : layout.Blank) {items : List Json} {values : List α}
    (h : List.Forall₂ (ReadsItem layout (depth + 1) reader) items values) {bound : Nat}
    (hbound : items.length < bound) (rest : List Char) :
    readItemsFrom reader bound false (writtenItems layout depth items ++ rest) =
      .ok (values, rest) := by
  induction h generalizing bound with
  | nil =>
    obtain ⟨bound, rfl⟩ := Nat.exists_eq_add_of_lt hbound
    rw [writtenItems, List.append_assoc, List.singleton_append, readItemsFrom,
      nextItem_close false (hlayout.line depth)]
    rfl
  | @cons item value items values hitem _ ih =>
    obtain ⟨bound, rfl⟩ : ∃ earlier, bound = earlier + 1 :=
      Nat.exists_eq_succ_of_ne_zero (Nat.ne_of_gt (Nat.lt_of_le_of_lt (Nat.zero_le _) hbound))
    have hends := endsNumber_writtenItems hlayout depth items rest
    have hrest := ih (Nat.lt_of_succ_lt_succ hbound)
    simp only [writtenItems, List.append_assoc, List.cons_append]
    rw [readItemsFrom, nextItem_comma (hlayout.line (depth + 1)) hitem.begins]
    simp only [bind, Except.bind, hitem.reads _ hends, hrest]
    rfl

/-- A printed array is read back from behind its opening bracket. -/
theorem readItems_written (hlayout : layout.Blank) {items : List Json} {values : List α}
    (h : List.Forall₂ (ReadsItem layout (depth + 1) reader) items values) :
    ∃ body, (Json.array items).written layout depth = '[' :: body ∧
      ∀ rest, readItems reader (body ++ rest) = .ok (values, rest) := by
  cases h with
  | nil => exact ⟨[']'], by rw [written], fun rest => rfl⟩
  | @cons item value items values hitem hitems =>
    refine ⟨layout.line (depth + 1) ++ (item.written layout (depth + 1) ++
      writtenItems layout depth items), ?_, fun rest => ?_⟩
    · rw [written]
      simp only [List.append_assoc, List.cons_append]
    · have hends := endsNumber_writtenItems hlayout depth items rest
      have hlength := length_lt_writtenItems layout depth items
      have hrest := fun bound (hbound : items.length < bound) =>
        readItemsFrom_written hlayout hitems hbound rest
      rw [readItems]
      simp only [List.append_assoc]
      rw [readItemsFrom, nextItem_first (hlayout.line (depth + 1)) hitem.begins]
      simp only [bind, Except.bind, hitem.reads _ hends]
      rw [hrest]
      · rfl
      · simp only [List.length_append]
        omega

end Arrays

section Objects

variable {σ : Type} {layout : Layout} {depth : Nat}
  {member : σ → String → List Char → Read (σ × List Char)}

/-- The reader of members goes from one state to another through the members, one after the
other. -/
inductive ReadsMembers (layout : Layout) (depth : Nat)
    (member : σ → String → List Char → Read (σ × List Char)) :
    σ → List (String × Json) → σ → Prop where
  | nil {state : σ} : ReadsMembers layout depth member state [] state
  | cons {state next final : σ} {name : String} {value : Json} {rest : List (String × Json)} :
      Reads (member state name) (':' :: (layout.afterColon ++ value.written layout depth)) next →
      ReadsMembers layout depth member next rest final →
      ReadsMembers layout depth member state ((name, value) :: rest) final

theorem endsNumber_writtenMembers (hlayout : layout.Blank) (depth : Nat)
    (members : List (String × Json)) (rest : List Char) :
    EndsNumber (writtenMembers layout depth members ++ rest) := by
  cases members with
  | nil =>
    rw [writtenMembers, List.append_assoc]
    exact endsNumber_gap (hlayout.line depth) (endsNumber_cons rest (by decide))
  | cons first members =>
    rw [writtenMembers]
    exact endsNumber_cons _ (by decide)

theorem length_lt_writtenMembers (layout : Layout) (depth : Nat)
    (members : List (String × Json)) :
    members.length < (writtenMembers layout depth members).length := by
  induction members with
  | nil => simp [writtenMembers]
  | cons first members ih =>
    simp only [writtenMembers, List.length_cons, List.length_append]
    omega

theorem quote_append (s : String) (more : List Char) :
    quote s ++ more = '"' :: (s.toList.flatMap escapeChar ++ '"' :: more) := by
  rw [quote, List.cons_append, List.cons_append, List.append_assoc, List.singleton_append]

theorem nextKey_first {gap : List Char} (hgap : ∀ c ∈ gap, isSpace c) (more : List Char) :
    nextKey true (gap ++ '"' :: more) = .ok (.more more) := by
  rw [nextKey, skipSpace_append hgap, skipSpace_cons (by decide)]
  rfl

theorem nextKey_comma {gap : List Char} (hgap : ∀ c ∈ gap, isSpace c) (more : List Char) :
    nextKey false (',' :: (gap ++ '"' :: more)) = .ok (.more more) := by
  have hkey : skipSpace (gap ++ '"' :: more) = '"' :: more := by
    rw [skipSpace_append hgap, skipSpace_cons (by decide)]
  rw [nextKey, skipSpace_cons (by decide)]
  simp [hkey]

theorem nextKey_close (first : Bool) {gap : List Char} (hgap : ∀ c ∈ gap, isSpace c)
    (rest : List Char) : nextKey first (gap ++ '}' :: rest) = .ok (.finished rest) := by
  rw [nextKey, skipSpace_append hgap, skipSpace_cons (by decide)]
  rfl

theorem readMembersFrom_written (hlayout : layout.Blank) {state final : σ}
    {members : List (String × Json)}
    (h : ReadsMembers layout (depth + 1) member state members final) {bound : Nat}
    (hbound : members.length < bound) (rest : List Char) :
    readMembersFrom member bound false state (writtenMembers layout depth members ++ rest) =
      .ok (final, rest) := by
  induction h generalizing bound with
  | nil =>
    obtain ⟨bound, rfl⟩ := Nat.exists_eq_add_of_lt hbound
    rw [writtenMembers, List.append_assoc, List.singleton_append, readMembersFrom,
      nextKey_close false (hlayout.line depth)]
    rfl
  | @cons state next final name value members hvalue _ ih =>
    obtain ⟨bound, rfl⟩ : ∃ earlier, bound = earlier + 1 :=
      Nat.exists_eq_succ_of_ne_zero (Nat.ne_of_gt (Nat.lt_of_le_of_lt (Nat.zero_le _) hbound))
    have hends := endsNumber_writtenMembers hlayout depth members rest
    have hnext := hvalue _ hends
    have hrest := ih (Nat.lt_of_succ_lt_succ hbound)
    rw [List.cons_append, List.append_assoc] at hnext
    simp only [writtenMembers, List.append_assoc, List.cons_append, quote_append]
    rw [readMembersFrom, nextKey_comma (hlayout.line (depth + 1))]
    simp only [bind, Except.bind, readText_quoted, String.ofList_toList, hnext, hrest]

/-- A printed object is read back from behind its opening brace. -/
theorem readMembers_written (hlayout : layout.Blank) {state final : σ}
    {members : List (String × Json)}
    (h : ReadsMembers layout (depth + 1) member state members final) :
    ∃ body, (Json.object members).written layout depth = '{' :: body ∧
      ∀ rest, readMembers member state (body ++ rest) = .ok (final, rest) := by
  cases h with
  | nil => exact ⟨['}'], by rw [written], fun rest => rfl⟩
  | @cons state next final name value members hvalue hmembers =>
    refine ⟨layout.line (depth + 1) ++ (quote name ++ ':' :: (layout.afterColon ++
      (value.written layout (depth + 1) ++ writtenMembers layout depth members))), ?_,
      fun rest => ?_⟩
    · rw [written]
      simp only [List.append_assoc, List.cons_append]
    · have hends := endsNumber_writtenMembers hlayout depth members rest
      have hnext := hvalue _ hends
      have hlength := length_lt_writtenMembers layout depth members
      have hrest := fun bound (hbound : members.length < bound) =>
        readMembersFrom_written hlayout hmembers hbound rest
      rw [List.cons_append, List.append_assoc] at hnext
      rw [readMembers]
      simp only [List.append_assoc, List.cons_append, quote_append]
      rw [readMembersFrom, nextKey_first (hlayout.line (depth + 1))]
      simp only [bind, Except.bind, readText_quoted, String.ofList_toList, hnext]
      refine hrest _ ?_
      simp only [List.length_append, List.length_cons]
      omega

end Objects

end SeriesQuery.Json
