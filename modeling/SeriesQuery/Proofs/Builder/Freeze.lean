import SeriesQuery.Proofs.Builder.Session

/-!
# Freezing

Whether a builder is frozen can be told from its log: it is when a build came while the freezing
policy was in force. Nothing opens a frozen builder again. It refuses every binding before it looks
at a name, so its bindings stay, and each later build gives the query of the build that froze it.
-/

namespace SeriesQuery

/-- The policy that a log leaves in force. -/
def policyInForce (log : List Event) : BuildPolicy :=
  log.foldl (fun policy event => event.operation.policyAfter policy) default

/-- An event freezes a builder when it is a build under the freezing policy. -/
def Freezing (before : List Event) (event : Event) : Prop :=
  event.operation = .build ∧ policyInForce before = .freeze

theorem policyInForce_append (log : List Event) (event : Event) :
    policyInForce (log ++ [event]) = event.operation.policyAfter (policyInForce log) := by
  rw [policyInForce, List.foldl_append, List.foldl_cons, List.foldl_nil, policyInForce]

theorem new_open {template : String} {start : QueryBuilder}
    (h : QueryBuilder.new template = .ok start) :
    start.policy = default ∧ start.frozen = false := by
  rw [QueryBuilder.new] at h
  split at h
  · cases h
  · obtain rfl := Except.ok.inj h
    exact ⟨rfl, rfl⟩

theorem exists_freezing_concat (log : List Event) (event : Event) :
    (∃ before other after, log ++ [event] = before ++ other :: after ∧ Freezing before other) ↔
      (∃ before other after, log = before ++ other :: after ∧ Freezing before other) ∨
        Freezing log event := by
  constructor
  · rintro ⟨before, other, after, hlog, hfreezing⟩
    rcases eq_append_cons_of_concat hlog with ⟨rfl, rfl, rfl⟩ | ⟨front, rfl, hfront⟩
    · exact .inr hfreezing
    · exact .inl ⟨before, other, front, hfront, hfreezing⟩
  · rintro (⟨before, other, after, rfl, hfreezing⟩ | hfreezing)
    · refine ⟨before, other, after ++ [event], ?_, hfreezing⟩
      rw [List.append_assoc, List.cons_append]
    · exact ⟨log, event, [], rfl, hfreezing⟩

namespace Recorded

variable {template : String} {start b : QueryBuilder} {log : List Event}

theorem policy_eq (hnew : QueryBuilder.new template = .ok start) (h : Recorded start log b) :
    b.policy = policyInForce log := by
  induction h with
  | start => exact (new_open hnew).1
  | perform op _ ih =>
    rw [(op.outcome _).policy_eq, policyInForce_append, ih]
    rfl

/-- A builder is frozen when its log has a build under the freezing policy, and only then. -/
theorem frozen_iff (hnew : QueryBuilder.new template = .ok start) (h : Recorded start log b) :
    b.frozen ↔
      ∃ before event after, log = before ++ event :: after ∧ Freezing before event := by
  induction h with
  | start => simp [(new_open hnew).2]
  | @perform log b op hrecorded ih =>
    have hfreezing : Freezing log (op.event b) ↔ op = .build ∧ b.policy = .freeze := by
      rw [hrecorded.policy_eq hnew]
      rfl
    rw [(op.outcome b).frozen_iff, exists_freezing_concat, ih, hfreezing]

end Recorded

/-! ### Frozen builders -/

/-- The builder is frozen with the template and the bindings of a query. -/
structure Closed (q : Query) (b : QueryBuilder) : Prop where
  frozen : b.frozen
  text_eq : b.template = q.text
  bindings_eq : b.bindings = q.bindings

/-- A build under the freezing policy closes the builder with its query. -/
theorem closed_of_build {b : QueryBuilder} (hpolicy : b.policy = .freeze) :
    ∃ q, Operation.build.answer b = .ok (some q) ∧ Closed q (Operation.build.after b) := by
  refine ⟨{ text := b.template, bindings := b.bindings }, ?_, ?_⟩
  · rw [Operation.answer, Operation.build_on]
  · rw [Operation.after, Operation.build_on, if_pos hpolicy]
    exact ⟨rfl, rfl, rfl⟩

namespace Closed

variable {q : Query} {b : QueryBuilder}

theorem bindings_of_event (h : Closed q b) (op : Operation) : (op.event b).bindings = [] := by
  have houtcome := op.outcome b
  rw [Event.bindings, Operation.event]
  generalize op.answer b = answer, op.after b = b' at houtcome
  cases houtcome with
  | bound _ hopen _ => exact absurd h.frozen (by rw [hopen]; decide)
  | frozen _ _ => rfl
  | unknown _ _ _ => rfl
  | policySet _ => rfl
  | built => rfl

theorem step (op : Operation) (h : Closed q b) : Closed q (op.after b) := by
  have houtcome := op.outcome b
  constructor
  · exact houtcome.frozen_iff.2 (.inl h.frozen)
  · exact houtcome.template_eq.trans h.text_eq
  · have hbindings : Event.bindings ⟨op, op.answer b⟩ = [] := h.bindings_of_event op
    rw [houtcome.bindings_eq, hbindings]
    exact h.bindings_eq

theorem of_mem_holdings {steps : List Step} {later : Holding} (h : Closed q b)
    (hmem : later ∈ holdings b steps) : Closed q later.builder :=
  (recorded_of_mem_holdings hmem).preserves h fun op _ => step op

theorem answer_of_binds (h : Closed q b) {op : Operation} (hbinds : op.Binds) :
    op.answer b = .error QueryBuilder.frozenError := by
  rw [Operation.answer, Operation.call_on_of_binds hbinds, if_pos h.frozen]

theorem answer_build (h : Closed q b) : Operation.build.answer b = .ok (some q) := by
  rw [Operation.answer, Operation.build_on, h.text_eq, h.bindings_eq]

end Closed

/-- In every session a builder is frozen when its log has a build under the freezing policy, and
only then. From such a build on, whatever the session goes on to do, the builder and its copies stay
frozen with their bindings, refuse every binding as frozen, and give the query of that build. -/
theorem sessions_freeze_for_good {template : String} {start : QueryBuilder}
    (hnew : QueryBuilder.new template = .ok start) {steps : List Step} {held : Holding}
    (hmem : held ∈ holdings start steps) :
    (held.builder.frozen ↔
      ∃ before event after, held.log = before ++ event :: after ∧ Freezing before event) ∧
    ∀ (before after : List Event) (event : Event), held.log = before ++ event :: after →
      Freezing before event →
      ∃ q, event.answer = .ok (some q) ∧
        ∀ more : List Step, ∀ later ∈ holdings held.builder more,
          later.builder.frozen ∧ later.builder.bindings = held.builder.bindings ∧
          (∀ op : Operation, op.Binds →
            ∃ e, op.answer later.builder = .error e ∧ e.kind = .frozen) ∧
          Operation.build.answer later.builder = .ok (some q) := by
  have hrecorded := recorded_of_mem_holdings hmem
  refine ⟨hrecorded.frozen_iff hnew, fun before after event hlog hfreezing => ?_⟩
  obtain ⟨hbuild, hpolicy⟩ := hfreezing
  rw [hlog] at hrecorded
  obtain ⟨middle, hmiddle, hevent, hrest⟩ := hrecorded.split
  rw [hbuild] at hevent hrest
  rw [← hmiddle.policy_eq hnew] at hpolicy
  obtain ⟨q, hanswer, hclosed⟩ := closed_of_build hpolicy
  have hheld : Closed q held.builder := hrest.preserves hclosed fun op _ => Closed.step op
  refine ⟨q, by rw [hevent]; exact hanswer, fun more later hlater => ?_⟩
  have hlater : Closed q later.builder := hheld.of_mem_holdings hlater
  refine ⟨hlater.frozen, hlater.bindings_eq.trans hheld.bindings_eq.symm, ?_, hlater.answer_build⟩
  intro op hbinds
  exact ⟨QueryBuilder.frozenError, hlater.answer_of_binds hbinds, rfl⟩

/-- Going back to snapshots does not open the builder. -/
theorem sessions_freeze_for_good_past_snapshot :
    ∃ start, QueryBuilder.new ":a" = .ok start ∧
      ∃ held ∈ holdings start
          [.perform 0 (.setPolicy .freeze), .perform 0 .build, .perform 0 (.setPolicy .snapshot)],
        held.builder.policy = .snapshot ∧ held.builder.frozen := by
  obtain ⟨start, hnew⟩ : ∃ start, QueryBuilder.new ":a" = .ok start := ⟨_, rfl⟩
  let frozen := (Holding.perform ⟨start, []⟩ (.setPolicy .freeze)).perform .build
  have hmem : frozen.perform (.setPolicy .snapshot) ∈ holdings start
      [.perform 0 (.setPolicy .freeze), .perform 0 .build, .perform 0 (.setPolicy .snapshot)] :=
    List.mem_cons_self
  refine ⟨start, hnew, _, hmem, rfl, (sessions_freeze_for_good hnew hmem).1.2 ?_⟩
  exact ⟨[Operation.event (.setPolicy .freeze) start], _, _, rfl, rfl, rfl⟩

end SeriesQuery
