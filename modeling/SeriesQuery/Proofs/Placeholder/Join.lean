import Mathlib.Data.List.Basic
import SeriesQuery.Proofs.Placeholder.Scan

/-!
# Names in texts that are put together

A character that is neither a colon nor part of a name keeps the names on its two sides apart: a
name in front of it ends before it, and none begins with it. So a text that is put together with
such a character declares what its two parts declare. A name holds no other name, as its only colon
is at the front. A listing of names with spaces between them therefore declares the names that it
lists, whatever their order and however often each of them comes.
-/

namespace SeriesQuery

/-- What stops a class behind a text stops it wherever the text does not. -/
theorem takeWhile_append_of_stops {inside : Char → Bool} {rest : List Char}
    (hrest : StopsAt inside rest) (front : List Char) :
    (front ++ rest).takeWhile inside = front.takeWhile inside := by
  induction front with
  | nil => exact (span_append (List.forall_mem_nil _) hrest).1
  | cons c front ih => rw [List.cons_append, List.takeWhile_cons, List.takeWhile_cons, ih]

section Separator

variable {name front back : List Char} {c : Char}

theorem nameAtFront?_of_ne {first : Char} (h : first ≠ ':') (rest : List Char) :
    nameAtFront? (first :: rest) = none := by
  rw [nameAtFront?.eq_def]
  split
  · rename_i heq
    exact absurd (List.cons.inj heq).1 h
  · rfl

/-- The name at the front of a text does not reach over the separator. -/
theorem nameAtFront?_separated (hc : isNameChar c = false) (first : Char)
    (front back : List Char) :
    nameAtFront? (first :: (front ++ c :: back)) = nameAtFront? (first :: front) := by
  by_cases hfirst : first = ':'
  · subst hfirst
    cases front with
    | nil =>
      have hstart : ¬isNameStart c = true := fun hstart =>
        absurd (isNameChar_of_isNameStart hstart) (by simp [hc])
      exact if_neg hstart
    | cons second more =>
      have hstop : StopsAt isNameChar (c :: back) := by
        intro d hd
        rwa [← Option.some.inj hd]
      rw [List.cons_append, nameAtFront?, nameAtFront?, takeWhile_append_of_stops hstop]
  · rw [nameAtFront?_of_ne hfirst, nameAtFront?_of_ne hfirst]

theorem not_standsIn_nil : ¬StandsIn name [] := by
  rintro ⟨before, after, htext, ⟨first, more, rfl, -⟩, -⟩
  simp at htext

theorem standsIn_separated_iff (hcolon : c ≠ ':') (hc : isNameChar c = false) :
    StandsIn name (front ++ c :: back) ↔ StandsIn name front ∨ StandsIn name back := by
  induction front with
  | nil =>
    have hskip : StandsIn name ([c] ++ back) ↔ StandsIn name back :=
      standsIn_append_iff (by simpa using hcolon.symm)
    exact hskip.trans (or_iff_right not_standsIn_nil).symm
  | cons first front ih =>
    rw [List.cons_append, standsIn_cons_iff, standsIn_cons_iff, nameAtFront?_separated hc, ih,
      or_assoc]

end Separator

/-! ### Listings -/

/-- The only name in a name is the name itself. -/
theorem IsName.standsIn_iff {name other : List Char} (h : IsName name) :
    StandsIn other name ↔ other = name := by
  have hcolon := h.colon_not_mem_tail
  have hfront : nameAtFront? name = some name :=
    nameAtFront?_eq_some_iff.2 ⟨h, [], by simp, fun c hc => by simp at hc⟩
  obtain ⟨first, more, rfl, -⟩ := h
  rw [List.tail_cons] at hcolon
  have hnone : ¬StandsIn other (first :: more) := by
    rw [← List.append_nil (first :: more), standsIn_append_iff hcolon]
    exact not_standsIn_nil
  rw [standsIn_cons_iff, or_iff_left hnone, hfront, Option.some.injEq, eq_comm]

/-- A listing of names holds the names that it lists. -/
theorem standsIn_intercalate_iff {c : Char} (hcolon : c ≠ ':') (hc : isNameChar c = false)
    {names : List (List Char)} (hnames : ∀ name ∈ names, IsName name) {name : List Char} :
    StandsIn name ([c].intercalate names) ↔ name ∈ names := by
  induction names with
  | nil => simpa using not_standsIn_nil
  | cons first rest ih =>
    obtain ⟨hfirst, hrest⟩ := List.forall_mem_cons.1 hnames
    cases rest with
    | nil => rw [List.intercalate_singleton, hfirst.standsIn_iff, List.mem_singleton]
    | cons second more =>
      rw [List.intercalate_cons_cons, List.append_assoc, List.singleton_append,
        standsIn_separated_iff hcolon hc, hfirst.standsIn_iff, ih hrest, ← List.mem_cons]

/-! ### Scans -/

namespace PlaceholderSet

/-- The members determine the set. -/
theorem ext_contains {s t : PlaceholderSet} (h : ∀ name, s.contains name ↔ t.contains name) :
    s = t := by
  obtain ⟨left⟩ := s
  obtain ⟨right⟩ := t
  refine congrArg mk (SortedMap.ext_get? fun name => ?_)
  have hname : (left.get? name).isSome ↔ (right.get? name).isSome := h name
  cases hleft : left.get? name <;> cases hright : right.get? name <;> simp [hleft, hright] at hname ⊢

/-- A listing of the names of a text is scanned to the names of the text. -/
theorem ofText_listing {text : List Char} {listing : List String}
    (hlisting : ∀ name, name ∈ listing ↔ (ofText text).contains name) :
    ofText (" ".intercalate listing).toList = ofText text := by
  have hnames : ∀ name ∈ listing.map String.toList, IsName name := by
    intro name hname
    obtain ⟨listed, hlisted, rfl⟩ := List.mem_map.1 hname
    exact isName_of_contains_ofText ((hlisting listed).1 hlisted)
  apply ext_contains
  intro name
  have hspace : StandsIn name.toList (" ".toList.intercalate (listing.map String.toList)) ↔
      name.toList ∈ listing.map String.toList :=
    standsIn_intercalate_iff (by decide) (by decide) hnames
  have hlisted : name.toList ∈ listing.map String.toList ↔ name ∈ listing :=
    List.mem_map_of_injective fun _ _ heq => String.toList_injective heq
  rw [contains_ofText, String.toList_intercalate, hspace, hlisted, hlisting]

end PlaceholderSet

/-- A text declares a name when the scan of it finds the name. The empty text, which is no template,
declares none. -/
def Declares (text name : String) : Prop :=
  ∃ found, scanPlaceholders text = .ok found ∧ name ∈ found.names

theorem declares_iff {text name : String} :
    Declares text name ↔ StandsIn name.toList text.toList := by
  constructor
  · rintro ⟨found, hscan, hname⟩
    obtain rfl := eq_ofText_of_scanPlaceholders hscan
    exact PlaceholderSet.contains_ofText.1 ((PlaceholderSet.mem_names_iff _ name).1 hname)
  · intro hname
    have hne : text ≠ "" := by
      rintro rfl
      exact not_standsIn_nil hname
    exact ⟨_, scanPlaceholders_eq_ok hne,
      (PlaceholderSet.mem_names_iff _ name).2 (PlaceholderSet.contains_ofText.2 hname)⟩

/-- A text of two parts with a separator between them declares what the parts declare. A listing of
the names of a template is scanned to the set of the template. -/
theorem scan_distributes_over_separators :
    (∀ (front back : String) (c : Char), c ≠ ':' → isNameChar c = false →
      ∃ found, scanPlaceholders (front ++ String.singleton c ++ back) = .ok found ∧
        ∀ name, name ∈ found.names ↔ Declares front name ∨ Declares back name) ∧
    ∀ (template : String) (found : PlaceholderSet), scanPlaceholders template = .ok found →
      found.names ≠ [] →
      ∀ listing : List String, (∀ name, name ∈ listing ↔ name ∈ found.names) →
        scanPlaceholders (" ".intercalate listing) = .ok found := by
  constructor
  · intro front back c hcolon hc
    have htext : (front ++ String.singleton c ++ back).toList =
        front.toList ++ c :: back.toList := by simp
    have hne : front ++ String.singleton c ++ back ≠ "" := by
      intro h
      rw [h] at htext
      simp at htext
    refine ⟨_, scanPlaceholders_eq_ok hne, fun name => ?_⟩
    rw [PlaceholderSet.mem_names_iff, PlaceholderSet.contains_ofText, htext,
      standsIn_separated_iff hcolon hc, declares_iff, declares_iff]
  · intro template found hscan hfound listing hlisting
    obtain rfl := eq_ofText_of_scanPlaceholders hscan
    have hsame := PlaceholderSet.ofText_listing fun name =>
      (hlisting name).trans (PlaceholderSet.mem_names_iff _ name)
    have hne : " ".intercalate listing ≠ "" := by
      intro hempty
      rw [hempty] at hsame
      exact hfound (congrArg PlaceholderSet.names hsame.symm)
    rw [scanPlaceholders_eq_ok hne, hsame]

/-- A lone colon in front of the separator and a letter behind it make no name, and a listing may
repeat a name. -/
theorem scan_distributes_over_separators_of_lone_colon :
    (∃ found, scanPlaceholders (":a:" ++ String.singleton 'é' ++ "b:c") = .ok found ∧
      ∀ name, name ∈ found.names ↔ Declares ":a:" name ∨ Declares "b:c" name) ∧
    ∃ found, scanPlaceholders "::b>:a_" = .ok found ∧ found.names = [":a_", ":b"] ∧
      scanPlaceholders (" ".intercalate [":b", ":a_", ":b"]) = .ok found := by
  obtain ⟨hparts, hlistings⟩ := scan_distributes_over_separators
  obtain ⟨found, hscan⟩ : ∃ found, scanPlaceholders "::b>:a_" = .ok found := ⟨_, rfl⟩
  have hnames : found.names = [":a_", ":b"] := by
    obtain rfl := Except.ok.inj hscan
    decide +kernel
  refine ⟨hparts _ _ _ (by decide) (by decide), found, hscan, hnames, ?_⟩
  apply hlistings _ _ hscan
  · simp [hnames]
  · intro name
    simp only [hnames, List.mem_cons, List.not_mem_nil, or_false]
    tauto

end SeriesQuery
