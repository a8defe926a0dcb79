import SeriesQuery.Query

/-!
# What a call does to a builder

The outcome of every call, said once for each. A binding is refused by a frozen builder before its
name is looked at, and by an open one when the name is not declared; in both cases nothing has been
stored yet. The rest of the theory reaches the calls only through these equations.
-/

namespace SeriesQuery.QueryBuilder

/-! ### New builders -/

/-- The builder that a template starts with. -/
def start (template : String) : QueryBuilder where
  template
  placeholders := .ofText template.toList
  bindings := .empty
  policy := default
  frozen := false

theorem new_empty : new "" = .error emptyTemplate := rfl

theorem new_eq {template : String} (h : template ≠ "") : new template = .ok (start template) := by
  have hempty : template.isEmpty = false := by simpa [String.isEmpty_iff] using h
  rw [new, scanPlaceholders, hempty]
  rfl

/-! ### Steps of a call -/

@[simp] theorem Call.on_pure {α : Type} (a : α) (b : QueryBuilder) :
    (pure a : Call α).on b = (.ok a, b) := rfl

@[simp] theorem Call.on_throw {α : Type} (e : Error) (b : QueryBuilder) :
    (throw e : Call α).on b = (.error e, b) := rfl

@[simp] theorem Call.on_get (b : QueryBuilder) : (get : Call QueryBuilder).on b = (.ok b, b) := rfl

@[simp] theorem Call.on_modify (f : QueryBuilder → QueryBuilder) (b : QueryBuilder) :
    (modify f : Call Unit).on b = (.ok (), f b) := rfl

@[simp] theorem Call.on_lift {α : Type} (step : StateM QueryBuilder α) (b : QueryBuilder) :
    Call.on (liftM step) b = (.ok (step.run b).1, (step.run b).2) := rfl

/-- What comes after a call starts from the builder that the call leaves, unless the call fails. -/
theorem Call.on_bind {α β : Type} (call : Call α) (next : α → Call β) (b : QueryBuilder) :
    (call >>= next).on b =
      match call.on b with
      | (.ok a, after) => (next a).on after
      | (.error e, after) => (.error e, after) := by
  change (match call b with
    | (outcome, after) => ExceptT.bindCont next outcome after) = _
  rcases hcall : call b with ⟨_ | a, after⟩
  · simp only [Call.on, ExceptT.run, StateT.run, hcall]
    rfl
  · simp only [Call.on, ExceptT.run, StateT.run, hcall]
    rfl

/-! ### Checks -/

theorem checkOpen_on (b : QueryBuilder) :
    checkOpen.on b = (if b.frozen then .error frozenError else .ok (), b) := by
  rw [checkOpen, Call.on_bind, Call.on_get]
  dsimp only
  split <;> rfl

theorem checkName_on (name : String) (b : QueryBuilder) :
    (checkName name).on b =
      (if b.placeholders.contains name then .ok () else .error (b.unknownName name), b) := by
  rw [checkName, Call.on_bind, Call.on_get]
  cases h : b.placeholders.contains name <;> simp [h]

/-- The first entry whose name is not declared. -/
def firstUnknown? (b : QueryBuilder) (entries : List (String × Cell)) : Option (String × Cell) :=
  entries.find? fun entry => !b.placeholders.contains entry.1

theorem declared_of_firstUnknown?_eq_none {b : QueryBuilder} {entries : List (String × Cell)}
    (h : b.firstUnknown? entries = none) {entry : String × Cell} (hentry : entry ∈ entries) :
    b.placeholders.contains entry.1 := by
  simpa using List.find?_eq_none.1 h entry hentry

theorem checkNames_on (entries : List (String × Cell)) (b : QueryBuilder) :
    Call.on (entries.forM fun entry => checkName entry.1) b =
      (match b.firstUnknown? entries with
        | some entry => .error (b.unknownName entry.1)
        | none => .ok (), b) := by
  induction entries with
  | nil => rfl
  | cons entry rest ih =>
    rw [List.forM, Call.on_bind, checkName_on]
    cases hname : b.placeholders.contains entry.1
    · simp [firstUnknown?, List.find?, hname]
    · simpa [firstUnknown?, List.find?, hname] using ih

/-! ### Storing -/

/-- The bindings after more of them, each under the bytes of its name. -/
def withEntries (bindings : SortedMap Bytes Cell) (entries : List (String × Cell)) :
    SortedMap Bytes Cell :=
  entries.foldl (fun m entry => m.insert (Utf8.ofString entry.1) entry.2) bindings

def stored (b : QueryBuilder) (entries : List (String × Cell)) : QueryBuilder :=
  { b with bindings := withEntries b.bindings entries }

theorem storeAll_on (entries : List (String × Cell)) (b : QueryBuilder) :
    Call.on (entries.forM fun entry => store entry.1 entry.2) b = (.ok (), b.stored entries) := by
  induction entries generalizing b with
  | nil => rfl
  | cons entry rest ih =>
    rw [List.forM, Call.on_bind, store, Call.on_modify]
    exact ih (b.stored [entry])

/-! ### Calls -/

theorem bind_on (name : String) (cell : Cell) (b : QueryBuilder) :
    (bind name cell).on b =
      if b.frozen then (.error frozenError, b)
      else if b.placeholders.contains name then (.ok (), b.stored [(name, cell)])
      else (.error (b.unknownName name), b) := by
  rw [bind, Call.on_bind, checkOpen_on]
  cases hfrozen : b.frozen
  · simp only [Bool.false_eq_true, if_false, Call.on_bind, checkName_on]
    cases b.placeholders.contains name <;> rfl
  · rfl

theorem bindAll_on (entries : List (String × Cell)) (b : QueryBuilder) :
    (bindAll entries).on b =
      if b.frozen then (.error frozenError, b)
      else
        match b.firstUnknown? entries with
        | some entry => (.error (b.unknownName entry.1), b)
        | none => (.ok (), b.stored entries) := by
  rw [bindAll, Call.on_bind, checkOpen_on]
  cases hfrozen : b.frozen
  · simp only [Bool.false_eq_true, if_false, Call.on_bind, checkNames_on]
    cases b.firstUnknown? entries with
    | some entry => rfl
    | none => exact storeAll_on entries b
  · rfl

theorem build_run (b : QueryBuilder) :
    build.run b =
      ({ text := b.template, bindings := b.bindings },
        if b.policy = .freeze then { b with frozen := true } else b) := by
  by_cases hpolicy : b.policy = .freeze
  · rw [if_pos hpolicy]
    simp only [build, StateT.run_bind, StateT.run_get, pure_bind, if_pos hpolicy]
    rfl
  · rw [if_neg hpolicy]
    simp only [build, StateT.run_bind, StateT.run_get, pure_bind, if_neg hpolicy]
    rfl

theorem bindAndBuild_on {b : QueryBuilder} (hopen : b.frozen = false)
    (entries : List (String × Cell)) :
    ((bindAndBuild entries).on b).1 =
      match b.firstUnknown? entries with
      | some entry => .error (b.unknownName entry.1)
      | none => .ok { text := b.template, bindings := withEntries b.bindings entries } := by
  rw [bindAndBuild, Call.on_bind, bindAll_on, hopen]
  cases b.firstUnknown? entries with
  | some entry => rfl
  | none =>
    simp only [Bool.false_eq_true, if_false, Call.on_lift, build_run]
    rfl

end SeriesQuery.QueryBuilder
