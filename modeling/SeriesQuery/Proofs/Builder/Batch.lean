import SeriesQuery.Proofs.Builder.Log

/-!
# A batch and its entries one by one

A batch looks at all its names before it stores anything, while calls of their own look at each name
just before its cell is stored. For an open builder the two come to the same: storing changes the
bindings alone, and neither the openness nor the declared names are read off from those, so a name is
judged alike before and after the entries in front of it. They part only at a name that is not
declared. There the batch has stored nothing, and the single calls have stored what came before it.
-/

namespace SeriesQuery.QueryBuilder

/-- The entries are bound by one call each, in order, and every call succeeds. -/
inductive BindsEach : QueryBuilder → List (String × Cell) → QueryBuilder → Prop where
  | nil (b : QueryBuilder) : BindsEach b [] b
  | cons {b next last : QueryBuilder} {name : String} {cell : Cell} {rest : List (String × Cell)} :
      (bind name cell).on b = (.ok (), next) → BindsEach next rest last →
      BindsEach b ((name, cell) :: rest) last

theorem stored_stored (b : QueryBuilder) (before entries : List (String × Cell)) :
    (b.stored before).stored entries = b.stored (before ++ entries) := by
  rw [stored, stored, stored, withEntries, withEntries, withEntries, List.foldl_append]

theorem firstUnknown?_stored (b : QueryBuilder) (before entries : List (String × Cell)) :
    (b.stored before).firstUnknown? entries = b.firstUnknown? entries := rfl

theorem unknownName_stored (b : QueryBuilder) (before : List (String × Cell)) (name : String) :
    (b.stored before).unknownName name = b.unknownName name := rfl

theorem firstUnknown?_cons (b : QueryBuilder) (entry : String × Cell) (rest : List (String × Cell)) :
    b.firstUnknown? (entry :: rest) =
      if b.placeholders.contains entry.1 then b.firstUnknown? rest else some entry := by
  rw [firstUnknown?, List.find?_cons]
  cases b.placeholders.contains entry.1 <;> rfl

/-- Single calls succeed when every name is declared, and they store what a batch stores. -/
theorem bindsEach_iff {b last : QueryBuilder} (hopen : b.frozen = false)
    (entries : List (String × Cell)) :
    BindsEach b entries last ↔ b.firstUnknown? entries = none ∧ last = b.stored entries := by
  induction entries generalizing b with
  | nil =>
    constructor
    · intro h
      cases h
      exact ⟨rfl, rfl⟩
    · rintro ⟨-, rfl⟩
      exact .nil b
  | cons entry rest ih =>
    obtain ⟨name, cell⟩ := entry
    have hbind := bind_on name cell b
    rw [hopen, if_neg Bool.false_ne_true] at hbind
    have hstill : (b.stored [(name, cell)]).frozen = false := hopen
    have hrest := ih hstill
    rw [firstUnknown?_stored, stored_stored, List.singleton_append] at hrest
    rw [firstUnknown?_cons]
    cases hname : b.placeholders.contains name with
    | true =>
      rw [hname, if_pos rfl] at hbind
      rw [if_pos rfl, ← hrest]
      constructor
      · intro h
        cases h with
        | cons hfirst hafter =>
          rw [hbind] at hfirst
          obtain ⟨-, rfl⟩ := Prod.mk.inj hfirst
          exact hafter
      · intro hafter
        exact .cons hbind hafter
    | false =>
      rw [hname, if_neg Bool.false_ne_true] at hbind
      rw [if_neg Bool.false_ne_true]
      constructor
      · intro h
        cases h with
        | cons hfirst hafter =>
          rw [hbind] at hfirst
          cases hfirst
      · rintro ⟨hnone, -⟩
        cases hnone

/-- The first undeclared name stops the single calls, with what came before it bound. -/
theorem exists_bindsEach_of_firstUnknown? {b : QueryBuilder} (hopen : b.frozen = false)
    {entries : List (String × Cell)} {entry : String × Cell}
    (h : b.firstUnknown? entries = some entry) :
    ∃ before after, entries = before ++ entry :: after ∧
      BindsEach b before (b.stored before) ∧
      (bind entry.1 entry.2).on (b.stored before) =
        (.error (b.unknownName entry.1), b.stored before) := by
  obtain ⟨hunknown, before, after, rfl, hbefore⟩ := List.find?_eq_some_iff_append.1 h
  have hknown : b.firstUnknown? before = none :=
    List.find?_eq_none.2 fun other hother => by simpa using hbefore other hother
  refine ⟨before, after, rfl, (bindsEach_iff hopen before).2 ⟨hknown, rfl⟩, ?_⟩
  have hname : b.placeholders.contains entry.1 = false := by simpa using hunknown
  have hstill : (b.stored before).frozen = false := hopen
  have hstillUnknown : (b.stored before).placeholders.contains entry.1 = false := hname
  rw [bind_on, hstill, hstillUnknown, if_neg Bool.false_ne_true, if_neg Bool.false_ne_true,
    unknownName_stored]

/-- A batch on an open builder succeeds when binding its entries one by one does, and leaves the same
builder. A batch that fails leaves its builder as it was. Its error is that of the first single call
that fails, before which exactly the entries in front have been bound. -/
theorem batch_agrees_with_single_calls {b : QueryBuilder} (hopen : b.frozen = false)
    (entries : List (String × Cell)) :
    (∀ last, (bindAll entries).on b = (.ok (), last) ↔ BindsEach b entries last) ∧
      ∀ (e : Error) (last : QueryBuilder), (bindAll entries).on b = (.error e, last) →
        last = b ∧
        ∃ before entry after kept, entries = before ++ entry :: after ∧
          BindsEach b before kept ∧ (bind entry.1 entry.2).on kept = (.error e, kept) ∧
          kept = b.stored before ∧
          ∀ name, kept.bindings.get? (Utf8.ofString name) =
            (before.reverse.lookup name).or (b.bindings.get? (Utf8.ofString name)) := by
  have hbatch := bindAll_on entries b
  rw [hopen, if_neg Bool.false_ne_true] at hbatch
  cases hunknown : b.firstUnknown? entries with
  | none =>
    simp only [hunknown] at hbatch
    constructor
    · intro last
      rw [bindsEach_iff hopen, hbatch, Prod.mk.injEq]
      constructor
      · rintro ⟨-, hlast⟩
        exact ⟨hunknown, hlast.symm⟩
      · rintro ⟨-, hlast⟩
        exact ⟨rfl, hlast.symm⟩
    · intro e last herror
      rw [hbatch] at herror
      cases herror
  | some entry =>
    simp only [hunknown] at hbatch
    constructor
    · intro last
      rw [bindsEach_iff hopen, hbatch, hunknown]
      constructor
      · intro h
        cases h
      · rintro ⟨h, -⟩
        cases h
    · intro e last herror
      rw [hbatch] at herror
      cases herror
      obtain ⟨before, after, hentries, hbound, hrefused⟩ :=
        exists_bindsEach_of_firstUnknown? hopen hunknown
      refine ⟨rfl, before, entry, after, _, hentries, hbound, hrefused, rfl, ?_⟩
      intro name
      exact get?_withEntries b.bindings before name

/-- Three entries of which the second has no declared name. -/
theorem batch_agrees_with_single_calls_of_unknown_name :
    ∃ start, QueryBuilder.new ":a" = .ok start ∧ start.frozen = false ∧
      (bindAll [(":a", .null), (":b", .null), (":a", .boolean true)]).on start =
        (.error (start.unknownName ":b"), start) ∧
      ∃ before entry after kept,
        [(":a", .null), (":b", .null), (":a", .boolean true)] = before ++ entry :: after ∧
        BindsEach start before kept ∧
        (bind entry.1 entry.2).on kept = (.error (start.unknownName ":b"), kept) ∧
        kept = start.stored before := by
  obtain ⟨start, hnew⟩ : ∃ start, QueryBuilder.new ":a" = .ok start := ⟨_, rfl⟩
  have hopen : start.frozen = false := by
    obtain rfl := Except.ok.inj hnew
    rfl
  have hbatch : (bindAll [(":a", .null), (":b", .null), (":a", .boolean true)]).on start =
      (.error (start.unknownName ":b"), start) := by
    obtain rfl := Except.ok.inj hnew
    rfl
  obtain ⟨-, before, entry, after, kept, hentries, hbound, hrefused, hkept, -⟩ :=
    (batch_agrees_with_single_calls hopen _).2 _ _ hbatch
  exact ⟨start, hnew, hopen, hbatch, before, entry, after, kept, hentries, hbound, hrefused, hkept⟩

end SeriesQuery.QueryBuilder
