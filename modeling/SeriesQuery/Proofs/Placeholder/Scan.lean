import SeriesQuery.Placeholder
import SeriesQuery.Proofs.Text.Span
import SeriesQuery.Proofs.Text.Utf8

/-!
# What the scanner finds

A name stands in a template when it is a part of the template that does not go on with another
character of a name. The search passes over what it has found. As a name has its only colon at the
front, nothing that is passed over begins a name, so no name is hidden by an earlier one and the
search finds exactly the names that stand in the template.
-/

namespace SeriesQuery

/-- A colon, a letter, and letters, digits and underscores. -/
def IsName (name : List Char) : Prop :=
  ∃ first more, name = ':' :: first :: more ∧ isNameStart first ∧ ∀ c ∈ more, isNameChar c

/-- The name is a part of the text, and no character of a name comes after it. -/
def StandsIn (name text : List Char) : Prop :=
  ∃ before after, text = before ++ name ++ after ∧ IsName name ∧ StopsAt isNameChar after

theorem isNameChar_of_isNameStart {c : Char} (h : isNameStart c) : isNameChar c := by
  rw [isNameChar, h]
  rfl

/-- Behind its first character a name has no colon. -/
theorem IsName.colon_not_mem_tail {name : List Char} (h : IsName name) : ':' ∉ name.tail := by
  obtain ⟨first, more, rfl, hfirst, hmore⟩ := h
  intro hmem
  have hcolon : isNameChar ':' := by
    rcases List.mem_cons.1 hmem with heq | hmem
    · exact heq ▸ isNameChar_of_isNameStart hfirst
    · exact hmore ':' hmem
  exact absurd hcolon (by decide)

theorem nameAtFront?_eq_some_iff {text name : List Char} :
    nameAtFront? text = some name ↔
      IsName name ∧ ∃ after, text = name ++ after ∧ StopsAt isNameChar after := by
  constructor
  · intro h
    rw [nameAtFront?.eq_def] at h
    split at h
    · rename_i first rest
      split at h
      · rename_i hfirst
        obtain rfl := Option.some.inj h
        refine ⟨⟨first, _, rfl, hfirst, fun c hc => ?_⟩, rest.dropWhile isNameChar, ?_,
          stopsAt_dropWhile isNameChar rest⟩
        · exact List.all_eq_true.1 List.all_takeWhile c hc
        · simp only [List.cons_append, List.takeWhile_append_dropWhile]
      · cases h
    · cases h
  · rintro ⟨⟨first, more, rfl, hfirst, hmore⟩, after, rfl, hafter⟩
    rw [List.cons_append, List.cons_append, nameAtFront?, if_pos hfirst,
      (span_append hmore hafter).1]

theorem standsIn_cons_iff {name rest : List Char} {c : Char} :
    StandsIn name (c :: rest) ↔ nameAtFront? (c :: rest) = some name ∨ StandsIn name rest := by
  rw [nameAtFront?_eq_some_iff]
  constructor
  · rintro ⟨before, after, htext, hname, hafter⟩
    cases before with
    | nil => exact .inl ⟨hname, after, htext, hafter⟩
    | cons d before =>
      exact .inr ⟨before, after, (List.cons.inj htext).2, hname, hafter⟩
  · rintro (⟨hname, after, htext, hafter⟩ | ⟨before, after, rfl, hname, hafter⟩)
    · exact ⟨[], after, htext, hname, hafter⟩
    · exact ⟨c :: before, after, rfl, hname, hafter⟩

/-- No name begins where there is no colon. -/
theorem standsIn_append_iff {name front rest : List Char} (hfront : ':' ∉ front) :
    StandsIn name (front ++ rest) ↔ StandsIn name rest := by
  induction front with
  | nil => rfl
  | cons c front ih =>
    rw [List.cons_append, standsIn_cons_iff, ih (List.not_mem_of_not_mem_cons hfront)]
    refine or_iff_right fun h => ?_
    obtain ⟨⟨first, more, rfl, _⟩, after, htext, _⟩ := nameAtFront?_eq_some_iff.1 h
    exact List.ne_of_not_mem_cons hfront (List.cons.inj htext).1.symm

/-- The search finds what stands behind the characters that are taken. -/
theorem mem_namesBehind_iff {name text : List Char} {taken : Nat} :
    name ∈ namesBehind taken text ↔ StandsIn name (text.drop taken) := by
  induction text generalizing taken with
  | nil =>
    rw [List.drop_nil, namesBehind]
    refine iff_of_false List.not_mem_nil ?_
    rintro ⟨before, after, htext, ⟨first, more, rfl, _⟩, _⟩
    simp at htext
  | cons c rest ih =>
    cases taken with
    | succ taken => rw [namesBehind, ih, List.drop_succ_cons]
    | zero =>
      rw [List.drop_zero, standsIn_cons_iff, namesBehind]
      cases hfront : nameAtFront? (c :: rest) with
      | none =>
        rw [ih, List.drop_zero]
        exact (or_iff_right fun h => Option.some_ne_none _ h.symm).symm
      | some found =>
        obtain ⟨hfound, after, htext, _⟩ := nameAtFront?_eq_some_iff.1 hfront
        have hcolon := hfound.colon_not_mem_tail
        obtain ⟨first, more, rfl, _⟩ := hfound
        obtain rfl : rest = first :: more ++ after := (List.cons.inj htext).2
        have hbehind : (first :: more ++ after).drop ((':' :: first :: more).length - 1) = after :=
          List.drop_left
        have hrest : StandsIn name (first :: more ++ after) ↔ StandsIn name after :=
          standsIn_append_iff hcolon
        rw [List.mem_cons, ih, hbehind, hrest, Option.some.injEq, eq_comm]

theorem mem_nameOccurrences_iff {name text : List Char} :
    name ∈ nameOccurrences text ↔ StandsIn name text :=
  mem_namesBehind_iff

namespace PlaceholderSet

theorem contains_ofText {template : List Char} {name : String} :
    (ofText template).contains name ↔ StandsIn name.toList template := by
  rw [contains, ofText, SortedMap.contains_ofList, ← mem_nameOccurrences_iff]
  constructor
  · rintro ⟨entry, hentry, rfl⟩
    obtain ⟨found, hfound, rfl⟩ := List.mem_map.1 hentry
    rwa [String.toList_ofList]
  · intro hname
    exact ⟨(name, ()), List.mem_map.2 ⟨name.toList, hname, by rw [String.ofList_toList]⟩, rfl⟩

theorem isName_of_contains_ofText {template : List Char} {name : String}
    (h : (ofText template).contains name) : IsName name.toList := by
  obtain ⟨-, -, -, hname, -⟩ := contains_ofText.1 h
  exact hname

theorem mem_names_iff (s : PlaceholderSet) (name : String) : name ∈ s.names ↔ s.contains name :=
  SortedMap.mem_keys_iff s.declared name

theorem length_names (s : PlaceholderSet) : s.names.length = s.size :=
  SortedMap.length_keys s.declared

theorem isEmpty_iff (s : PlaceholderSet) : s.isEmpty ↔ s.names = [] := by
  rw [isEmpty, List.isEmpty_iff, names, SortedMap.keys, List.map_eq_nil_iff]

theorem names_ascending (s : PlaceholderSet) :
    (s.names.map Utf8.ofString).Pairwise (· < ·) :=
  List.pairwise_map.2 (s.declared.keys_ascending.imp Utf8.ofString_lt_iff.2)

end PlaceholderSet

theorem scanPlaceholders_eq_ok {template : String} (h : template ≠ "") :
    scanPlaceholders template = .ok (.ofText template.toList) := by
  have hnonempty : ¬template.isEmpty = true := by simpa using h
  rw [scanPlaceholders, if_neg hnonempty]

theorem eq_ofText_of_scanPlaceholders {template : String} {found : PlaceholderSet}
    (h : scanPlaceholders template = .ok found) : found = .ofText template.toList := by
  rw [scanPlaceholders] at h
  split at h
  · cases h
  · exact (Except.ok.inj h).symm

/-- Scanning fails on the empty template and on no other. The set that it gives holds exactly the
names that stand in the template, each once and in the order of their bytes. -/
theorem scanPlaceholders_exact (template : String) :
    match scanPlaceholders template with
    | .error e => template = "" ∧ e.kind = .invalidTemplate
    | .ok found =>
      template ≠ "" ∧
        (∀ name, found.contains name ↔ StandsIn name.toList template.toList) ∧
        (∀ name, name ∈ found.names ↔ found.contains name) ∧
        found.names.length = found.size ∧
        (found.isEmpty ↔ found.names = []) ∧
        (found.names.map Utf8.ofString).Pairwise (· < ·) := by
  rw [scanPlaceholders]
  by_cases hempty : template = ""
  · subst hempty
    exact ⟨rfl, rfl⟩
  · have hnonempty : ¬template.isEmpty = true := by simpa using hempty
    rw [if_neg hnonempty]
    exact ⟨hempty, fun _ => PlaceholderSet.contains_ofText, PlaceholderSet.mem_names_iff _,
      PlaceholderSet.length_names _, PlaceholderSet.isEmpty_iff _,
      PlaceholderSet.names_ascending _⟩

/-- Adjacent names, a doubled colon, a letter that is not ASCII, and a name that begins another. -/
example : (scanPlaceholders ":b:ab::aé:a9_ :_").toOption.map PlaceholderSet.names =
    some [":a", ":a9_", ":ab", ":b"] := by
  decide +kernel

end SeriesQuery
