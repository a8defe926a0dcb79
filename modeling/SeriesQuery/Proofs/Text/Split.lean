import Mathlib.Data.List.TakeWhile
import SeriesQuery.Proofs.Text.Span

/-!
# Texts cut at marks

A piece without marks is left whole, so the pieces that are put together with marks between them are
what the text is cut into. The last mark of a text is the one behind which no other comes.
-/

namespace SeriesQuery

theorem splitFirst?_eq_none {mark : Char} {text : List Char} (h : mark ∉ text) :
    splitFirst? mark text = none := by
  have hdrop : text.dropWhile (· != mark) = [] := by
    apply List.dropWhile_eq_nil_iff.2
    intro c hc
    simp only [bne_iff_ne]
    rintro rfl
    exact h hc
  rw [splitFirst?, hdrop]

theorem splitLast?_eq_none {mark : Char} {text : List Char} (h : mark ∉ text) :
    splitLast? mark text = none := by
  have hreverse : mark ∉ text.reverse := by simpa using h
  rw [splitLast?, splitFirst?_eq_none hreverse]
  rfl

theorem splitLast?_append {mark : Char} (front : List Char) {back : List Char} (h : mark ∉ back) :
    splitLast? mark (front ++ mark :: back) = some (front, back) := by
  have hback : mark ∉ back.reverse := by simpa using h
  rw [splitLast?, List.reverse_append, List.reverse_cons, List.append_assoc, List.singleton_append,
    splitFirst?_append hback, Option.map_some, List.reverse_reverse, List.reverse_reverse]

section SplitAll

variable {mark : Char → Bool}

theorem splitAll_ne_nil (text : List Char) : splitAll mark text ≠ [] := by
  cases text with
  | nil => simp [splitAll]
  | cons c rest =>
    rw [splitAll]
    split
    · simp
    · split <;> simp

theorem splitAll_cons_of_not {c : Char} (h : mark c = false) {rest piece : List Char}
    {pieces : List (List Char)} (hrest : splitAll mark rest = piece :: pieces) :
    splitAll mark (c :: rest) = (c :: piece) :: pieces := by
  simp [splitAll, h, hrest]

theorem splitAll_solid {piece : List Char} (h : ∀ c ∈ piece, mark c = false) :
    splitAll mark piece = [piece] := by
  induction piece with
  | nil => rfl
  | cons c piece ih =>
    obtain ⟨hc, hpiece⟩ := List.forall_mem_cons.1 h
    exact splitAll_cons_of_not hc (ih hpiece)

theorem splitAll_append_cons {piece : List Char} (h : ∀ c ∈ piece, mark c = false) {m : Char}
    (hm : mark m) (rest : List Char) :
    splitAll mark (piece ++ m :: rest) = piece :: splitAll mark rest := by
  induction piece with
  | nil => simp [splitAll, hm]
  | cons c piece ih =>
    obtain ⟨hc, hpiece⟩ := List.forall_mem_cons.1 h
    exact splitAll_cons_of_not hc (ih hpiece)

theorem splitAll_intercalate {m : Char} (hm : mark m) {pieces : List (List Char)}
    (hne : pieces ≠ []) (h : ∀ piece ∈ pieces, ∀ c ∈ piece, mark c = false) :
    splitAll mark ([m].intercalate pieces) = pieces := by
  induction pieces with
  | nil => contradiction
  | cons piece pieces ih =>
    obtain ⟨hpiece, hpieces⟩ := List.forall_mem_cons.1 h
    cases pieces with
    | nil => rw [List.intercalate_singleton, splitAll_solid hpiece]
    | cons next pieces =>
      rw [List.intercalate_cons_cons, List.append_assoc, List.singleton_append,
        splitAll_append_cons hpiece hm, ih (List.cons_ne_nil next pieces) hpieces]

/-- What holds of the mark and of all pieces holds of the text that they are put together to. -/
theorem forall_mem_intercalate {P : Char → Prop} {m : Char} (hm : P m) {pieces : List (List Char)}
    (h : ∀ piece ∈ pieces, ∀ c ∈ piece, P c) : ∀ c ∈ [m].intercalate pieces, P c := by
  induction pieces with
  | nil => exact List.forall_mem_nil P
  | cons piece pieces ih =>
    obtain ⟨hpiece, hpieces⟩ := List.forall_mem_cons.1 h
    cases pieces with
    | nil => rwa [List.intercalate_singleton]
    | cons next pieces =>
      rw [List.intercalate_cons_cons]
      refine List.forall_mem_append.2 ⟨List.forall_mem_append.2 ⟨hpiece, ?_⟩, ih hpieces⟩
      simpa using hm

/-- A piece has no marks, and its characters are of the text. -/
theorem of_mem_splitAll {text piece : List Char} (h : piece ∈ splitAll mark text) {c : Char}
    (hc : c ∈ piece) : mark c = false ∧ c ∈ text := by
  induction text generalizing piece with
  | nil =>
    rw [splitAll, List.mem_singleton] at h
    rw [h] at hc
    cases hc
  | cons first rest ih =>
    rw [splitAll] at h
    split at h
    · rcases List.mem_cons.1 h with rfl | hrest
      · cases hc
      · obtain ⟨hmark, hmem⟩ := ih hrest hc
        exact ⟨hmark, List.mem_cons_of_mem first hmem⟩
    · rename_i hfirst
      split at h
      · rename_i hnil
        exact absurd hnil (splitAll_ne_nil rest)
      · rename_i next pieces hsplit
        rw [hsplit] at ih
        rcases List.mem_cons.1 h with rfl | hpieces
        · rcases List.mem_cons.1 hc with rfl | hnext
          · exact ⟨by simpa using hfirst, List.mem_cons_self⟩
          · obtain ⟨hmark, hmem⟩ := ih List.mem_cons_self hnext
            exact ⟨hmark, List.mem_cons_of_mem first hmem⟩
        · obtain ⟨hmark, hmem⟩ := ih (List.mem_cons_of_mem next hpieces) hc
          exact ⟨hmark, List.mem_cons_of_mem first hmem⟩

end SplitAll

end SeriesQuery
