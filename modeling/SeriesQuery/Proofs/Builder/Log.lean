import SeriesQuery.Proofs.Builder.Session
import SeriesQuery.Proofs.Text.Utf8

/-!
# A builder refines its log

What a builder has bound can be told from its log alone: a name has the cell of the last binding of
it that was accepted. The bindings are kept under the bytes of the names, and since different names
have different bytes, no binding is shadowed by that of another name. A build therefore gives the
template together with the last bindings before it.
-/

namespace SeriesQuery

/-- The cell that the last binding of a name has given it. -/
def lastBinding? (log : List Event) (name : String) : Option Cell :=
  (log.flatMap Event.bindings).reverse.lookup name

/-- What was bound later comes first. -/
theorem get?_withEntries (bindings : SortedMap Bytes Cell) (entries : List (String × Cell))
    (name : String) :
    (QueryBuilder.withEntries bindings entries).get? (Utf8.ofString name) =
      (entries.reverse.lookup name).or (bindings.get? (Utf8.ofString name)) := by
  induction entries generalizing bindings with
  | nil => rfl
  | cons entry rest ih =>
    have hfirst := ih (bindings.insert (Utf8.ofString entry.1) entry.2)
    rw [List.reverse_cons, List.lookup_append, Option.or_assoc]
    refine hfirst.trans (congrArg _ ?_)
    rw [SortedMap.get?_insert, SortedMap.lookup_entry, List.lookup_nil]
    by_cases hname : name = entry.1
    · rw [if_pos (congrArg Utf8.ofString hname), if_pos hname, Option.some_or]
    · rw [if_neg (mt Utf8.ofString_injective hname), if_neg hname, Option.none_or]

theorem lastBinding?_append (log : List Event) (event : Event) (name : String) :
    lastBinding? (log ++ [event]) name =
      (event.bindings.reverse.lookup name).or (lastBinding? log name) := by
  rw [lastBinding?, List.flatMap_append, List.flatMap_singleton, List.reverse_append,
    List.lookup_append, lastBinding?]

/-- The builder holds the template, and each name has the cell of its last binding in the log. -/
structure Refines (template : String) (log : List Event) (b : QueryBuilder) : Prop where
  template_eq : b.template = template
  get?_eq : ∀ name, b.bindings.get? (Utf8.ofString name) = lastBinding? log name

theorem refines_new {template : String} {start : QueryBuilder}
    (h : QueryBuilder.new template = .ok start) : Refines template [] start := by
  rw [QueryBuilder.new] at h
  split at h
  · cases h
  · obtain rfl := Except.ok.inj h
    exact ⟨rfl, fun _ => rfl⟩

theorem Refines.step {template : String} {log : List Event} {b : QueryBuilder}
    (h : Refines template log b) (op : Operation) :
    Refines template (log ++ [op.event b]) (op.after b) := by
  have houtcome := op.outcome b
  refine ⟨houtcome.template_eq.trans h.template_eq, fun name => ?_⟩
  rw [houtcome.bindings_eq, get?_withEntries, lastBinding?_append, h.get?_eq]
  rfl

theorem Recorded.refines {template : String} {start b : QueryBuilder} {log : List Event}
    (hnew : QueryBuilder.new template = .ok start) (h : Recorded start log b) :
    Refines template log b := by
  induction h with
  | start => exact refines_new hnew
  | perform op _ ih => exact ih.step op

/-- The query of a builder that refines a log. -/
theorem Refines.build {template : String} {log : List Event} {b : QueryBuilder}
    (h : Refines template log b) :
    ∃ q, Operation.build.answer b = .ok (some q) ∧ q.text = template ∧
      ∀ name, q.get? name = lastBinding? log name := by
  refine ⟨{ text := b.template, bindings := b.bindings }, ?_, h.template_eq, h.get?_eq⟩
  rw [Operation.answer, Operation.build_on]

theorem exists_new {template : String} (h : template ≠ "") :
    ∃ start, QueryBuilder.new template = .ok start :=
  ⟨_, QueryBuilder.new_eq h⟩

/-- Every build in a session gives the template with the last bindings accepted before it, and an
operation that fails leaves the builder as it was. -/
theorem sessions_refine_log {template : String} (h : template ≠ "") :
    ∃ start, QueryBuilder.new template = .ok start ∧
      ∀ steps : List Step, ∀ held ∈ holdings start steps,
        (∀ (before after : List Event) (event : Event), held.log = before ++ event :: after →
          event.operation = .build →
          ∃ q, event.answer = .ok (some q) ∧ q.text = template ∧
            ∀ name, q.get? name = lastBinding? before name) ∧
        ∀ (op : Operation) (e : Error), op.answer held.builder = .error e →
          op.after held.builder = held.builder := by
  obtain ⟨start, hnew⟩ := exists_new h
  refine ⟨start, hnew, fun steps held hmem => ⟨?_, ?_⟩⟩
  · intro before after event hlog hbuild
    have hrecorded := recorded_of_mem_holdings hmem
    rw [hlog] at hrecorded
    obtain ⟨middle, hmiddle, hevent, _⟩ := hrecorded.split
    rw [hevent, hbuild]
    exact (hmiddle.refines hnew).build
  · intro op e herror
    have houtcome := op.outcome held.builder
    rw [herror] at houtcome
    exact houtcome.eq_of_error

/-- Of two bindings in one batch the later one counts, and a copy starts with both. -/
theorem sessions_refine_log_of_batch :
    ∃ start, QueryBuilder.new ":a" = .ok start ∧
      ∀ held ∈ holdings start
          [.perform 0 (.bindAll [(":a", .boolean true), (":a", .boolean false)]), .clone 0,
            .perform 1 .build],
        ∀ (before : List Event) (event : Event), held.log = before ++ [event] →
          event.operation = .build →
          ∃ q, event.answer = .ok (some q) ∧ q.get? ":a" = lastBinding? before ":a" := by
  obtain ⟨start, hnew, hall⟩ := sessions_refine_log (show ":a" ≠ "" by decide)
  refine ⟨start, hnew, fun held hmem before event hlog hbuild => ?_⟩
  obtain ⟨q, hanswer, _, hget⟩ := (hall _ held hmem).1 before [] event hlog hbuild
  exact ⟨q, hanswer, hget ":a"⟩

end SeriesQuery
