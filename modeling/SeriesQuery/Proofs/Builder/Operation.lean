import SeriesQuery.Proofs.Builder.Call

/-!
# Operations on a builder

An operation is one thing that a caller does with a builder, and an event is an operation together
with what it gave. `Operation.outcome` lists all that can happen; what an operation does to each
part of the builder is read off from it. The template and the declared names stay for ever, the
bindings take in what the event has bound, the policy is the one that was set last, and only a build
under the freezing policy closes the builder. An operation that fails changes nothing at all.
-/

namespace SeriesQuery

inductive Operation where
  | bind (name : String) (cell : Cell)
  | bindAll (entries : List (String × Cell))
  | setPolicy (policy : BuildPolicy)
  | build
  deriving DecidableEq

/-- What an operation gives: a build gives its query, and the others give no value. -/
abbrev Answer := Except Error (Option Query)

structure Event where
  operation : Operation
  answer : Answer

namespace Operation

def call : Operation → QueryBuilder.Call (Option Query)
  | bind name cell => do
    QueryBuilder.bind name cell
    return none
  | bindAll entries => do
    QueryBuilder.bindAll entries
    return none
  | setPolicy policy => do
    modify fun b => b.withPolicy policy
    return none
  | build => do return some (← QueryBuilder.build)

def answer (op : Operation) (b : QueryBuilder) : Answer := (op.call.on b).1

/-- The builder after an operation. -/
def after (op : Operation) (b : QueryBuilder) : QueryBuilder := (op.call.on b).2

def event (op : Operation) (b : QueryBuilder) : Event := ⟨op, op.answer b⟩

def Binds : Operation → Prop
  | bind .. | bindAll _ => True
  | setPolicy _ | build => False

/-- The bindings that an operation asks for. -/
def bindings : Operation → List (String × Cell)
  | bind name cell => [(name, cell)]
  | bindAll entries => entries
  | setPolicy _ | build => []

/-- The policy that an operation leaves. -/
def policyAfter (policy : BuildPolicy) : Operation → BuildPolicy
  | setPolicy chosen => chosen
  | bind .. | bindAll _ | build => policy

end Operation

/-- The bindings that an event has made. -/
def Event.bindings (event : Event) : List (String × Cell) :=
  match event.answer with
  | .ok _ => event.operation.bindings
  | .error _ => []

namespace Operation

open QueryBuilder (frozenError)

theorem ne_build_of_binds {op : Operation} (h : op.Binds) : op ≠ build := by
  rintro rfl
  exact h

theorem policyAfter_of_binds {op : Operation} (h : op.Binds) (policy : BuildPolicy) :
    op.policyAfter policy = policy := by
  cases op with
  | bind name cell => rfl
  | bindAll entries => rfl
  | setPolicy chosen => exact h.elim
  | build => rfl

/-! ### All that can happen -/

inductive Outcome (b : QueryBuilder) : Operation → Answer → QueryBuilder → Prop where
  | frozen {op : Operation} : op.Binds → b.frozen → Outcome b op (.error frozenError) b
  | unknown {op : Operation} {entry : String × Cell} : op.Binds → b.frozen = false →
      b.firstUnknown? op.bindings = some entry →
      Outcome b op (.error (b.unknownName entry.1)) b
  | bound {op : Operation} : op.Binds → b.frozen = false →
      b.firstUnknown? op.bindings = none →
      Outcome b op (.ok none) (b.stored op.bindings)
  | policySet (policy : BuildPolicy) :
      Outcome b (setPolicy policy) (.ok none) (b.withPolicy policy)
  | built : Outcome b build (.ok (some { text := b.template, bindings := b.bindings }))
      (if b.policy = .freeze then { b with frozen := true } else b)

theorem call_on_of_binds {op : Operation} (h : op.Binds) (b : QueryBuilder) :
    op.call.on b =
      if b.frozen then (.error frozenError, b)
      else
        match b.firstUnknown? op.bindings with
        | some entry => (.error (b.unknownName entry.1), b)
        | none => (.ok none, b.stored op.bindings) := by
  cases op with
  | bind name cell =>
    rw [call, QueryBuilder.Call.on_bind, QueryBuilder.bind_on, bindings]
    cases hfrozen : b.frozen
    · cases hname : b.placeholders.contains name <;>
        simp [QueryBuilder.firstUnknown?, List.find?, hname]
    · rfl
  | bindAll entries =>
    rw [call, QueryBuilder.Call.on_bind, QueryBuilder.bindAll_on, bindings]
    cases b.frozen
    · cases b.firstUnknown? entries <;> rfl
    · rfl
  | setPolicy policy => exact h.elim
  | build => exact h.elim

theorem build_on (b : QueryBuilder) :
    build.call.on b =
      (.ok (some { text := b.template, bindings := b.bindings }),
        if b.policy = .freeze then { b with frozen := true } else b) := by
  rw [call, QueryBuilder.Call.on_bind, QueryBuilder.Call.on_lift, QueryBuilder.build_run]
  rfl

theorem outcome_of_binds {op : Operation} (h : op.Binds) (b : QueryBuilder) :
    Outcome b op (op.answer b) (op.after b) := by
  rw [answer, after, call_on_of_binds h]
  cases hfrozen : b.frozen with
  | true => exact .frozen h hfrozen
  | false =>
    cases hunknown : b.firstUnknown? op.bindings with
    | some entry => exact .unknown h hfrozen hunknown
    | none => exact .bound h hfrozen hunknown

theorem outcome (op : Operation) (b : QueryBuilder) :
    Outcome b op (op.answer b) (op.after b) := by
  cases op with
  | bind name cell => exact outcome_of_binds (show (bind name cell).Binds from trivial) b
  | bindAll entries => exact outcome_of_binds (show (bindAll entries).Binds from trivial) b
  | setPolicy policy => exact .policySet policy
  | build =>
    rw [answer, after, build_on]
    exact .built

/-! ### What it does to each part -/

namespace Outcome

variable {b b' : QueryBuilder} {op : Operation} {answer : Answer}

/-- An operation that fails changes nothing. -/
theorem eq_of_error {e : Error} (h : Outcome b op (.error e) b') : b' = b := by
  cases h with
  | frozen _ _ => rfl
  | unknown _ _ _ => rfl

/-- Only a build gives a query, and that is the query of what is bound. -/
theorem query_eq {q : Query} (h : Outcome b op (.ok (some q)) b') :
    q = { text := b.template, bindings := b.bindings } := by
  cases h with
  | built => rfl

theorem template_eq (h : Outcome b op answer b') : b'.template = b.template := by
  cases h with
  | built => split <;> rfl
  | _ => rfl

theorem placeholders_eq (h : Outcome b op answer b') : b'.placeholders = b.placeholders := by
  cases h with
  | built => split <;> rfl
  | _ => rfl

/-- The bindings take in those that the event has made. -/
theorem bindings_eq (h : Outcome b op answer b') :
    b'.bindings = QueryBuilder.withEntries b.bindings (Event.bindings ⟨op, answer⟩) := by
  cases h with
  | built => split <;> rfl
  | _ => rfl

theorem policy_eq (h : Outcome b op answer b') : b'.policy = op.policyAfter b.policy := by
  cases h with
  | frozen hbinds _ => exact (policyAfter_of_binds hbinds b.policy).symm
  | unknown hbinds _ _ => exact (policyAfter_of_binds hbinds b.policy).symm
  | bound hbinds _ _ => exact (policyAfter_of_binds hbinds b.policy).symm
  | policySet policy => rfl
  | built => split <;> rfl

theorem frozen_iff (h : Outcome b op answer b') :
    b'.frozen ↔ b.frozen ∨ op = build ∧ b.policy = .freeze := by
  cases h with
  | frozen hbinds _ => simp [ne_build_of_binds hbinds]
  | unknown hbinds _ _ => simp [ne_build_of_binds hbinds]
  | bound hbinds _ _ => simp [ne_build_of_binds hbinds, QueryBuilder.stored]
  | policySet policy => simp [QueryBuilder.withPolicy]
  | built => split <;> simp [*]

/-- Only declared names are ever bound. -/
theorem declared_of_mem {entry : String × Cell} (h : Outcome b op answer b')
    (hentry : entry ∈ Event.bindings ⟨op, answer⟩) : b.placeholders.contains entry.1 := by
  cases h with
  | bound _ _ hknown => exact QueryBuilder.declared_of_firstUnknown?_eq_none hknown hentry
  | frozen _ _ => cases hentry
  | unknown _ _ _ => cases hentry
  | policySet policy => cases hentry
  | built => cases hentry

end Outcome

end Operation

end SeriesQuery
