import Mathlib.Data.List.Forall2

/-!
# Lists of judgements

A list is judged one by one. All values come out, in the order of the list, or the first refusal.
-/

namespace SeriesQuery

section Except

variable {ε α β : Type}

/-- A list of judgements gives all values, or the error of the first that fails. -/
theorem mapM_cases (judge : α → Except ε β) (list : List α) :
    (∃ values, List.Forall₂ (fun a b => judge a = .ok b) list values ∧
      list.mapM judge = .ok values) ∨
    ∃ before a after e, list = before ++ a :: after ∧ (∀ x ∈ before, ∃ b, judge x = .ok b) ∧
      judge a = .error e ∧ list.mapM judge = .error e := by
  induction list with
  | nil => exact .inl ⟨[], .nil, rfl⟩
  | cons first rest ih =>
    rw [List.mapM_cons]
    cases hfirst : judge first with
    | error e => exact .inr ⟨[], first, rest, e, rfl, List.forall_mem_nil _, hfirst, rfl⟩
    | ok b =>
      rcases ih with ⟨values, hvalues, hrest⟩ | ⟨before, a, after, e, rfl, hbefore, ha, hrest⟩
      · rw [hrest]
        exact .inl ⟨b :: values, .cons hfirst hvalues, rfl⟩
      · rw [hrest]
        exact .inr ⟨first :: before, a, after, e, rfl,
          List.forall_mem_cons.2 ⟨⟨b, hfirst⟩, hbefore⟩, ha, rfl⟩

theorem forall₂_of_mapM_eq_ok {judge : α → Except ε β} {list : List α} {values : List β}
    (h : list.mapM judge = .ok values) :
    List.Forall₂ (fun a b => judge a = .ok b) list values := by
  rcases mapM_cases judge list with ⟨found, hfound, hok⟩ | ⟨_, _, _, e, _, _, _, herror⟩
  · rw [hok] at h
    obtain rfl := Except.ok.inj h
    exact hfound
  · rw [herror] at h
    cases h

theorem mapM_eq_ok_iff {judge : α → Except ε β} {list : List α} {values : List β} :
    list.mapM judge = .ok values ↔ List.Forall₂ (fun a b => judge a = .ok b) list values := by
  constructor
  · exact forall₂_of_mapM_eq_ok
  · intro h
    induction h with
    | nil => rfl
    | cons hfirst _ ih =>
      rw [List.mapM_cons, hfirst, ih]
      rfl

end Except

section Option

variable {α β : Type}

theorem mapM_eq_some_iff {judge : α → Option β} {list : List α} {values : List β} :
    list.mapM judge = some values ↔ List.Forall₂ (fun a b => judge a = some b) list values := by
  induction list generalizing values with
  | nil =>
    rw [List.mapM_nil, List.forall₂_nil_left_iff]
    exact ⟨fun h => (Option.some.inj h).symm, fun h => congrArg some h.symm⟩
  | cons first rest ih =>
    rw [List.mapM_cons]
    simp only [Option.bind_eq_bind, Option.bind_eq_some_iff, Option.pure_def, Option.some.injEq, ih]
    constructor
    · rintro ⟨b, hfirst, others, hothers, rfl⟩
      exact .cons hfirst hothers
    · rintro (_ | ⟨hfirst, hothers⟩)
      exact ⟨_, hfirst, _, hothers, rfl⟩

end Option

section Forall₂

variable {α β : Type} {R : α → β → Prop} {left : List α} {right : List β}

theorem exists_right_of_forall₂ (h : List.Forall₂ R left right) {a : α} (ha : a ∈ left) :
    ∃ b ∈ right, R a b := by
  induction h with
  | nil => cases ha
  | cons hfirst _ ih =>
    rcases List.mem_cons.1 ha with rfl | ha
    · exact ⟨_, List.mem_cons_self, hfirst⟩
    · obtain ⟨b, hb, hab⟩ := ih ha
      exact ⟨b, List.mem_cons_of_mem _ hb, hab⟩

theorem exists_left_of_forall₂ (h : List.Forall₂ R left right) {b : β} (hb : b ∈ right) :
    ∃ a ∈ left, R a b :=
  exists_right_of_forall₂ h.flip hb

end Forall₂

end SeriesQuery
