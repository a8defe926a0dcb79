import SeriesQuery.Proofs.Builder.Representation
import SeriesQuery.Proofs.Placeholder.Scan

/-!
# The hint for a missing colon

A name that is not declared is refused as unknown, with the name as the parameter of the error. The
error gets a hint when the name does not begin with a colon and is declared with one in front. The
first condition is implied by the second: what a template declares is a colon with a letter behind it,
and a name that begins with a colon would put a second one there. So the hint is there exactly when
the name with a colon can be bound instead.
-/

namespace SeriesQuery

/-- Behind the colon of a name comes a letter. -/
theorem not_isName_doubled_colon (rest : List Char) : ¬IsName (':' :: ':' :: rest) := by
  rintro ⟨first, more, htext, hfirst, -⟩
  obtain ⟨rfl, -⟩ := List.cons.inj (List.cons.inj htext).2
  exact absurd hfirst (by decide)

theorem Represents.isName_of_contains {template : String} {b : QueryBuilder}
    (h : Represents template b) {name : String} (hname : b.placeholders.contains name) :
    IsName name.toList := by
  rw [eq_ofText_of_scanPlaceholders h.scan_eq] at hname
  exact PlaceholderSet.isName_of_contains_ofText hname

namespace QueryBuilder

variable {b : QueryBuilder} {name : String}

theorem isSome_hint_unknownName :
    (b.unknownName name).hint.isSome ↔
      name.startsWith ":" = false ∧ b.placeholders.contains (":" ++ name) := by
  rw [unknownName]
  cases name.startsWith ":" <;> cases b.placeholders.contains (":" ++ name) <;> simp

theorem not_contains_colon_append {template : String} (h : Represents template b)
    (hcolon : name.startsWith ":") : ¬b.placeholders.contains (":" ++ name) = true := by
  intro hdeclared
  obtain ⟨rest, hrest⟩ := String.startsWith_string_iff.1 hcolon
  have hname := h.isName_of_contains hdeclared
  rw [String.toList_append, ← hrest] at hname
  exact not_isName_doubled_colon rest hname

end QueryBuilder

/-! ### Refusals -/

namespace Operation

variable {b : QueryBuilder} {op : Operation}

/-- The name is refused: the bindings ask for it, and for declared names alone before it. -/
structure FirstUnknown (b : QueryBuilder) (op : Operation) (name : String) : Prop where
  asked : ∃ before cell after, op.bindings = before ++ (name, cell) :: after ∧
    ∀ entry ∈ before, b.placeholders.contains entry.1
  undeclared : b.placeholders.contains name = false

/-- An operation that is refused for a name reports the first name that is not declared. -/
theorem exists_firstUnknown_of_answer {e : Error} (h : op.answer b = .error e)
    (hkind : e.kind = .unknownParameter) :
    ∃ name, FirstUnknown b op name ∧ e = b.unknownName name ∧ b.frozen = false := by
  have houtcome := op.outcome b
  rw [h] at houtcome
  generalize op.after b = b' at houtcome
  cases houtcome with
  | frozen _ _ => cases hkind
  | @unknown _ entry _ hopen hfirst =>
    obtain ⟨hunknown, before, after, hbindings, hbefore⟩ := List.find?_eq_some_iff_append.1 hfirst
    refine ⟨entry.1, ⟨⟨before, entry.2, after, hbindings, ?_⟩, by simpa using hunknown⟩, rfl, hopen⟩
    exact fun other hother => by simpa using hbefore other hother

theorem answer_of_declared (hopen : b.frozen = false) (hbinds : op.Binds)
    (hdeclared : ∀ entry ∈ op.bindings, b.placeholders.contains entry.1) :
    op.answer b = .ok none := by
  have hknown : b.firstUnknown? op.bindings = none :=
    List.find?_eq_none.2 fun entry hentry => by simpa using hdeclared entry hentry
  rw [answer, call_on_of_binds hbinds, hopen, if_neg Bool.false_ne_true, hknown]

end Operation

/-- In every session an operation that is refused for an unknown name reports the name. There is a hint
exactly when the name is declared with a colon in front, and then binding that succeeds. A name that
has a colon in front already gets no hint. -/
theorem hints_for_missing_colon {template : String} {start : QueryBuilder}
    (hnew : QueryBuilder.new template = .ok start) {steps : List Step} {held : Holding}
    (hmem : held ∈ holdings start steps) {op : Operation} {e : Error}
    (hanswer : op.answer held.builder = .error e) (hkind : e.kind = .unknownParameter) :
    ∃ name, Operation.FirstUnknown held.builder op name ∧ e.parameter = some name ∧
      (e.hint.isSome ↔ held.builder.placeholders.contains (":" ++ name)) ∧
      (e.hint.isSome → ∀ retry : Operation, retry.Binds →
        (∀ entry ∈ retry.bindings, entry.1 = ":" ++ name) →
          retry.answer held.builder = .ok none) ∧
      (name.startsWith ":" → e.hint = none) := by
  have hrepresents : Represents template held.builder := .of_mem_holdings hnew hmem
  obtain ⟨name, hunknown, rfl, hopen⟩ := Operation.exists_firstUnknown_of_answer hanswer hkind
  have hhint := @QueryBuilder.isSome_hint_unknownName held.builder name
  refine ⟨name, hunknown, rfl, ?_, ?_, ?_⟩
  · rw [hhint]
    refine and_iff_right_of_imp fun hdeclared => ?_
    by_contra hcolon
    exact QueryBuilder.not_contains_colon_append hrepresents (by simpa using hcolon) hdeclared
  · intro hsome retry hbinds hbindings
    refine Operation.answer_of_declared hopen hbinds fun entry hentry => ?_
    rw [hbindings entry hentry]
    exact (hhint.1 hsome).2
  · intro hcolon
    rw [← Option.not_isSome_iff_eq_none, hhint, hcolon]
    exact fun h => Bool.noConfusion h.1

/-- A batch of which the second name has lost its colon. -/
theorem hints_for_missing_colon_of_batch :
    ∃ (start : QueryBuilder) (held : Holding) (e : Error),
      QueryBuilder.new ":a > :b" = .ok start ∧
      held ∈ holdings start [.perform 0 (.bind ":a" .null)] ∧
      (Operation.bindAll [(":b", .null), ("a", .null), ("c", .null)]).answer held.builder =
        .error e ∧
      e.kind = .unknownParameter ∧ e.parameter = some "a" ∧ e.hint.isSome ∧
      (Operation.bind ":a" (.boolean true)).answer held.builder = .ok none := by
  obtain ⟨start, hnew⟩ : ∃ start, QueryBuilder.new ":a > :b" = .ok start := ⟨_, rfl⟩
  let held := Holding.perform ⟨start, []⟩ (.bind ":a" .null)
  have hmem : held ∈ holdings start [.perform 0 (.bind ":a" .null)] := List.mem_cons_self
  have hanswer : (Operation.bindAll [(":b", .null), ("a", .null), ("c", .null)]).answer
      held.builder = .error (held.builder.unknownName "a") := by
    obtain rfl := Except.ok.inj hnew
    rfl
  obtain ⟨name, -, hname, -, hretry, -⟩ := hints_for_missing_colon hnew hmem hanswer rfl
  obtain rfl : "a" = name := Option.some.inj hname
  have hhint : (held.builder.unknownName "a").hint.isSome := by
    obtain rfl := Except.ok.inj hnew
    decide +kernel
  refine ⟨start, held, _, hnew, hmem, hanswer, rfl, rfl, hhint, hretry hhint _ trivial ?_⟩
  intro entry hentry
  rw [List.mem_singleton.1 hentry]
  rfl

end SeriesQuery
