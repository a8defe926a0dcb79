import SeriesQuery.Text.Pieces

/-!
# The longest front of a text

A front of characters of one class, behind which something else or nothing comes, is what
`takeWhile` takes, and the rest is what `dropWhile` leaves. So a text is cut at the first mark of
it, and the white space around it is taken off.
-/

namespace SeriesQuery

/-- The text does not begin with a character of the class. -/
def StopsAt (inside : Char → Bool) (rest : List Char) : Prop :=
  ∀ c ∈ rest.head?, inside c = false

theorem stopsAt_dropWhile (inside : Char → Bool) (text : List Char) :
    StopsAt inside (text.dropWhile inside) := by
  intro c hc
  have hstop := List.head?_dropWhile_not inside text
  rw [Option.mem_def.1 hc] at hstop
  simpa using hstop

theorem span_append_of_head {α : Type} {inside : α → Bool} {front rest : List α}
    (hfront : ∀ a ∈ front, inside a) (hrest : ∀ a ∈ rest.head?, inside a = false) :
    (front ++ rest).takeWhile inside = front ∧ (front ++ rest).dropWhile inside = rest := by
  rw [List.takeWhile_append_of_pos hfront, List.dropWhile_append_of_pos hfront]
  cases rest with
  | nil => exact ⟨List.append_nil front, rfl⟩
  | cons a rest =>
    have ha : ¬inside a = true := by simp [hrest a rfl]
    rw [List.takeWhile_cons_of_neg ha, List.dropWhile_cons_of_neg ha]
    exact ⟨List.append_nil front, rfl⟩

theorem span_append {inside : Char → Bool} {front rest : List Char}
    (hfront : ∀ c ∈ front, inside c) (hrest : StopsAt inside rest) :
    (front ++ rest).takeWhile inside = front ∧ (front ++ rest).dropWhile inside = rest :=
  span_append_of_head hfront hrest

theorem ne_of_class {inside : Char → Bool} {c mark : Char} (hc : inside c = false)
    (hmark : inside mark) : c ≠ mark := by
  rintro rfl
  rw [hc] at hmark
  cases hmark

theorem splitFirst?_append {mark : Char} {front : List Char} (h : mark ∉ front)
    (rest : List Char) : splitFirst? mark (front ++ mark :: rest) = some (front, rest) := by
  have hfront : ∀ c ∈ front, c != mark := by
    intro c hc
    simp only [bne_iff_ne]
    rintro rfl
    exact h hc
  have hrest : StopsAt (· != mark) (mark :: rest) := by
    intro c hc
    simp [← Option.some.inj hc]
  obtain ⟨htake, hdrop⟩ := span_append hfront hrest
  rw [splitFirst?, htake, hdrop]

/-- Only the white space around a text is taken off. -/
theorem trim_append {before text after : List Char} (hbefore : ∀ c ∈ before, isBlank c)
    (hafter : ∀ c ∈ after, isBlank c) (hne : text ≠ []) (hfirst : StopsAt isBlank text)
    (hlast : StopsAt isBlank text.reverse) : trim (before ++ text ++ after) = text := by
  have hstart : StopsAt isBlank (text ++ after) := by
    cases text with
    | nil => contradiction
    | cons c rest => exact hfirst
  have hend : ∀ c ∈ after.reverse, isBlank c := by
    intro c hc
    exact hafter c (List.mem_reverse.1 hc)
  rw [trim, List.append_assoc, (span_append hbefore hstart).2, trimEnd, List.reverse_append,
    (span_append hend hlast).2, List.reverse_reverse]

/-- A text without white space. -/
def Solid (text : List Char) : Prop :=
  ∀ c ∈ text, isBlank c = false

@[simp] theorem solid_nil : Solid [] := by
  simp [Solid]

@[simp] theorem solid_cons {c : Char} {text : List Char} :
    Solid (c :: text) ↔ isBlank c = false ∧ Solid text :=
  List.forall_mem_cons

@[simp] theorem solid_append {front back : List Char} :
    Solid (front ++ back) ↔ Solid front ∧ Solid back :=
  List.forall_mem_append

theorem Solid.trim_append {before text after : List Char} (h : Solid text) (hne : text ≠ [])
    (hbefore : ∀ c ∈ before, isBlank c) (hafter : ∀ c ∈ after, isBlank c) :
    trim (before ++ text ++ after) = text := by
  apply SeriesQuery.trim_append hbefore hafter hne
  · intro c hc
    exact h c (List.mem_of_mem_head? hc)
  · intro c hc
    exact h c (List.mem_reverse.1 (List.mem_of_mem_head? hc))

theorem Solid.trim_eq {text : List Char} (h : Solid text) (hne : text ≠ []) : trim text = text := by
  have htrim := h.trim_append hne (List.forall_mem_nil _) (List.forall_mem_nil _)
  rwa [List.nil_append, List.append_nil] at htrim

theorem Solid.trim_self {text : List Char} (h : Solid text) : trim text = text := by
  by_cases hne : text = []
  · rw [hne]
    rfl
  · exact h.trim_eq hne

end SeriesQuery
