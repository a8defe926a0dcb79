import SeriesQuery.Proofs.Builder.Operation

/-!
# Sessions

A session is what a program does with builders: it starts with one, performs operations on those
that it holds, and copies them, in any order. Each builder comes with its log, the events that made
it what it is; a copy starts with the log of the builder it was copied from, and from then on the
two go their own ways. Whatever happens to the other builders, a builder is the outcome of its own log
(`recorded_of_mem_holdings`), so what a session keeps is proved by induction on one log.
-/

namespace SeriesQuery

/-- A builder and the events that made it what it is. -/
structure Holding where
  builder : QueryBuilder
  log : List Event

def Holding.perform (held : Holding) (op : Operation) : Holding :=
  { builder := op.after held.builder, log := held.log ++ [op.event held.builder] }

/-- A step of a session. The builders are numbered in the order in which they came up. -/
inductive Step where
  | perform (on : Nat) (op : Operation)
  | clone (of : Nat)

/-- The builders that are held after a step. A number that no builder has does nothing. -/
def advance (holdings : List Holding) : Step → List Holding
  | .perform i op => holdings.modify i fun held => held.perform op
  | .clone i => holdings ++ holdings[i]?.toList

/-- The builders that are held after a session that starts with one. -/
def holdings (start : QueryBuilder) (steps : List Step) : List Holding :=
  steps.foldl advance [{ builder := start, log := [] }]

/-- Some build in some session gives the query. -/
def Query.Obtainable (q : Query) : Prop :=
  ∃ (template : String) (start : QueryBuilder) (steps : List Step),
    QueryBuilder.new template = .ok start ∧
      ∃ held ∈ holdings start steps, ∃ event ∈ held.log, event.answer = .ok (some q)

/-- The builder is the outcome of the events of its log. -/
inductive Recorded (start : QueryBuilder) : List Event → QueryBuilder → Prop where
  | start : Recorded start [] start
  | perform {log : List Event} {b : QueryBuilder} (op : Operation) :
      Recorded start log b → Recorded start (log ++ [op.event b]) (op.after b)

theorem recorded_of_mem_advance {start : QueryBuilder} {earlier : List Holding} {step : Step}
    (h : ∀ held ∈ earlier, Recorded start held.log held.builder) {held : Holding}
    (hmem : held ∈ advance earlier step) : Recorded start held.log held.builder := by
  obtain ⟨n, hn⟩ := List.mem_iff_getElem?.1 hmem
  cases step with
  | perform i op =>
    rw [advance, List.getElem?_modify] at hn
    obtain ⟨old, hold, rfl⟩ := Option.map_eq_some_iff.1 hn
    have hrecorded := h old (List.mem_of_getElem? hold)
    split
    · exact .perform op hrecorded
    · exact hrecorded
  | clone i =>
    rcases List.mem_append.1 hmem with hmem | hmem
    · exact h held hmem
    · exact h held (List.mem_of_getElem? (Option.mem_toList.1 hmem))

theorem recorded_of_mem_foldl {start : QueryBuilder} {earlier : List Holding} (steps : List Step)
    (h : ∀ held ∈ earlier, Recorded start held.log held.builder) :
    ∀ held ∈ steps.foldl advance earlier, Recorded start held.log held.builder := by
  induction steps generalizing earlier with
  | nil => exact h
  | cons step rest ih => exact ih fun held hmem => recorded_of_mem_advance h hmem

/-- In every session each builder is the outcome of its own log. -/
theorem recorded_of_mem_holdings {start : QueryBuilder} {steps : List Step} {held : Holding}
    (hmem : held ∈ holdings start steps) : Recorded start held.log held.builder := by
  refine recorded_of_mem_foldl steps (fun first hfirst => ?_) held hmem
  rw [List.mem_singleton.1 hfirst]
  exact .start

/-- A place in a list that ends with a given element is either its end or lies before it. -/
theorem eq_append_cons_of_concat {α : Type} {list before after : List α} {last x : α}
    (h : list ++ [last] = before ++ x :: after) :
    (after = [] ∧ list = before ∧ last = x) ∨
      ∃ front, after = front ++ [last] ∧ list = before ++ x :: front := by
  rcases List.eq_nil_or_concat after with rfl | ⟨front, other, rfl⟩
  · obtain ⟨hlist, hlast⟩ := List.append_inj' h rfl
    exact .inl ⟨rfl, hlist, (List.cons.inj hlast).1⟩
  · rw [List.concat_eq_append, ← List.cons_append, ← List.append_assoc] at h
    obtain ⟨hlist, hlast⟩ := List.append_inj' h rfl
    obtain rfl := (List.cons.inj hlast).1
    exact .inr ⟨front, List.concat_eq_append, hlist⟩

namespace Recorded

variable {start b : QueryBuilder} {log : List Event}

/-- What holds at the start and is kept by every operation holds of every builder. -/
theorem preserves {P : QueryBuilder → Prop} (h : Recorded start log b) (hstart : P start)
    (hstep : ∀ (op : Operation) (b : QueryBuilder), P b → P (op.after b)) : P b := by
  induction h with
  | start => exact hstart
  | perform op _ ih => exact hstep op _ ih

/-- An event of the log happened to the builder of the events before it. -/
theorem split {before after : List Event} {event : Event}
    (h : Recorded start (before ++ event :: after) b) :
    ∃ middle, Recorded start before middle ∧ event = event.operation.event middle ∧
      Recorded (event.operation.after middle) after b := by
  generalize hlog : before ++ event :: after = log at h
  induction h generalizing after with
  | start => simp at hlog
  | @perform log b op hrecorded ih =>
    rcases eq_append_cons_of_concat hlog.symm with ⟨rfl, rfl, rfl⟩ | ⟨front, rfl, hfront⟩
    · exact ⟨b, hrecorded, rfl, .start⟩
    · obtain ⟨middle, hmiddle, hevent, hrest⟩ := ih hfront.symm
      exact ⟨middle, hmiddle, hevent, .perform op hrest⟩

end Recorded

end SeriesQuery
