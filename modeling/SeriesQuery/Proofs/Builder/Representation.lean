import Mathlib.Data.List.Sort
import SeriesQuery.Proofs.Builder.Session
import SeriesQuery.Proofs.Text.Utf8

/-!
# What a builder represents

The declared names of a builder are those of its template, and only declared names are bound. The
names stand in the order of their code points and the bindings in the order of their bytes. The two
orders agree, and a strictly ascending list is determined by its members, so the bindings are the
declared names that are bound, one after the other; the other declared names are unbound.
-/

namespace SeriesQuery

/-- The names are those of the template, and every binding is one of a declared name. -/
structure Represents (template : String) (b : QueryBuilder) : Prop where
  scan_eq : scanPlaceholders template = .ok b.placeholders
  declared : ∀ key ∈ b.bindings.keys, ∃ name ∈ b.placeholders.names, Utf8.ofString name = key

theorem mem_keys_withEntries {bindings : SortedMap Bytes Cell} {entries : List (String × Cell)}
    {key : Bytes} (h : key ∈ (QueryBuilder.withEntries bindings entries).keys) :
    key ∈ bindings.keys ∨ ∃ entry ∈ entries, Utf8.ofString entry.1 = key := by
  induction entries generalizing bindings with
  | nil => exact .inl h
  | cons entry rest ih =>
    have hrest : key ∈ (bindings.insert (Utf8.ofString entry.1) entry.2).keys ∨
        ∃ other ∈ rest, Utf8.ofString other.1 = key := ih h
    rcases hrest with hkey | ⟨other, hother, hkey⟩
    · rw [SortedMap.mem_keys_iff, SortedMap.contains_insert] at hkey
      rcases hkey with rfl | hkey
      · exact .inr ⟨entry, List.mem_cons_self, rfl⟩
      · exact .inl ((SortedMap.mem_keys_iff bindings key).2 hkey)
    · exact .inr ⟨other, List.mem_cons_of_mem _ hother, hkey⟩

theorem represents_new {template : String} {start : QueryBuilder}
    (h : QueryBuilder.new template = .ok start) : Represents template start := by
  rw [QueryBuilder.new] at h
  split at h
  · cases h
  · rename_i placeholders hscan
    obtain rfl := Except.ok.inj h
    exact ⟨hscan, fun key hkey => absurd hkey List.not_mem_nil⟩

namespace Represents

variable {template : String} {b : QueryBuilder}

theorem step (op : Operation) (h : Represents template b) : Represents template (op.after b) := by
  have houtcome := op.outcome b
  constructor
  · rw [houtcome.placeholders_eq]
    exact h.scan_eq
  · intro key hkey
    rw [houtcome.bindings_eq] at hkey
    rw [houtcome.placeholders_eq]
    rcases mem_keys_withEntries hkey with hkey | ⟨entry, hentry, hkey⟩
    · exact h.declared key hkey
    · have hname := houtcome.declared_of_mem hentry
      exact ⟨entry.1, (SortedMap.mem_keys_iff _ _).2 hname, hkey⟩

theorem of_recorded {start : QueryBuilder} {log : List Event}
    (hnew : QueryBuilder.new template = .ok start) (h : Recorded start log b) :
    Represents template b :=
  h.preserves (represents_new hnew) fun op _ => step op

theorem of_mem_holdings {start : QueryBuilder} {steps : List Step} {held : Holding}
    (hnew : QueryBuilder.new template = .ok start) (hmem : held ∈ holdings start steps) :
    Represents template held.builder :=
  of_recorded hnew (recorded_of_mem_holdings hmem)

/-- The bindings are the bound names among the declared ones, in the same order. -/
theorem keys_eq (h : Represents template b) :
    b.bindings.keys = (b.placeholders.names.filter b.isBound).map Utf8.ofString := by
  have hnames : b.placeholders.names.Pairwise (· < ·) := b.placeholders.declared.keys_ascending
  have hbound : ((b.placeholders.names.filter b.isBound).map Utf8.ofString).Pairwise (· < ·) := by
    rw [List.pairwise_map]
    exact (hnames.filter _).imp Utf8.ofString_lt_iff.2
  refine b.bindings.keys_ascending.eq_of_mem_iff hbound fun key => ?_
  rw [List.mem_map]
  constructor
  · intro hkey
    obtain ⟨name, hname, rfl⟩ := h.declared key hkey
    have hisBound : b.isBound name := (SortedMap.mem_keys_iff _ _).1 hkey
    exact ⟨name, List.mem_filter.2 ⟨hname, hisBound⟩, rfl⟩
  · rintro ⟨name, hname, rfl⟩
    have hisBound : b.isBound name := (List.mem_filter.1 hname).2
    exact (SortedMap.mem_keys_iff _ _).2 hisBound

theorem boundCount_add (h : Represents template b) :
    b.boundCount + b.unbound.length = b.placeholders.size := by
  have hcount : b.boundCount = (b.placeholders.names.filter b.isBound).length := by
    rw [QueryBuilder.boundCount, ← SortedMap.length_keys, h.keys_eq, List.length_map]
  have hsize : b.placeholders.size = b.placeholders.names.length :=
    (SortedMap.length_keys b.placeholders.declared).symm
  rw [hcount, QueryBuilder.unbound, hsize]
  exact (List.length_eq_length_filter_add b.isBound).symm

end Represents

/-- A query that can be obtained is that of a builder that represents its template. -/
theorem Query.Obtainable.exists_builder {q : Query} (h : q.Obtainable) :
    ∃ template b, Represents template b ∧ q = { text := b.template, bindings := b.bindings } := by
  obtain ⟨template, start, steps, hnew, held, hmem, event, hevent, hanswer⟩ := h
  obtain ⟨before, after, hlog⟩ := List.append_of_mem hevent
  have hrecorded := recorded_of_mem_holdings hmem
  rw [hlog] at hrecorded
  obtain ⟨middle, hmiddle, heq, _⟩ := hrecorded.split
  have houtcome := event.operation.outcome middle
  rw [heq] at hanswer
  change event.operation.answer middle = .ok (some q) at hanswer
  rw [hanswer] at houtcome
  exact ⟨template, middle, .of_recorded hnew hmiddle, houtcome.query_eq⟩

theorem mem_unbound_iff (b : QueryBuilder) (name : String) :
    name ∈ b.unbound ↔ b.placeholders.contains name ∧ b.isBound name = false := by
  have hname : name ∈ b.placeholders.names ↔ b.placeholders.contains name :=
    SortedMap.mem_keys_iff _ _
  rw [QueryBuilder.unbound, List.mem_filter, hname, Bool.not_eq_true']

theorem unbound_ascending (b : QueryBuilder) :
    (b.unbound.map Utf8.ofString).Pairwise (· < ·) := by
  have hnames : b.placeholders.names.Pairwise (· < ·) := b.placeholders.declared.keys_ascending
  rw [List.pairwise_map]
  exact (hnames.filter _).imp Utf8.ofString_lt_iff.2

/-- In every session each builder has the names of its template. The bound ones among them are the
bindings, also of its query, and the others are the unbound ones. -/
theorem sessions_keep_representation {template : String} {start : QueryBuilder}
    (hnew : QueryBuilder.new template = .ok start) {steps : List Step} {held : Holding}
    (hmem : held ∈ holdings start steps) :
    scanPlaceholders template = .ok held.builder.placeholders ∧
      (∀ key ∈ held.builder.bindings.keys,
        ∃ name ∈ held.builder.placeholders.names, Utf8.ofString name = key) ∧
      (∀ name, name ∈ held.builder.unbound ↔
        held.builder.placeholders.contains name ∧ held.builder.isBound name = false) ∧
      (held.builder.unbound.map Utf8.ofString).Pairwise (· < ·) ∧
      held.builder.boundCount + held.builder.unbound.length = held.builder.placeholders.size ∧
      (QueryBuilder.build.run held.builder).1.interpolations.map Prod.fst =
        (held.builder.placeholders.names.filter held.builder.isBound).map Utf8.ofString := by
  have hrepresents : Represents template held.builder := .of_mem_holdings hnew hmem
  refine ⟨hrepresents.scan_eq, hrepresents.declared, mem_unbound_iff held.builder,
    unbound_ascending held.builder, hrepresents.boundCount_add, ?_⟩
  rw [QueryBuilder.build_run]
  exact hrepresents.keys_eq

/-- A template with two names, the later one bound. -/
theorem sessions_keep_representation_of_two_names :
    ∃ start, QueryBuilder.new ":b > :a" = .ok start ∧
      ∃ held ∈ holdings start [.perform 0 (.bind ":b" .null)],
        held.builder.boundCount = 1 ∧ held.builder.unbound = [":a"] ∧
          held.builder.boundCount + held.builder.unbound.length =
            held.builder.placeholders.size := by
  obtain ⟨start, hnew⟩ : ∃ start, QueryBuilder.new ":b > :a" = .ok start := ⟨_, rfl⟩
  have hmem : Holding.perform ⟨start, []⟩ (.bind ":b" .null) ∈
      holdings start [.perform 0 (.bind ":b" .null)] := List.mem_cons_self
  refine ⟨start, hnew, _, hmem, ?_, ?_, (sessions_keep_representation hnew hmem).2.2.2.2.1⟩
  · obtain rfl := Except.ok.inj hnew
    rfl
  · obtain rfl := Except.ok.inj hnew
    rfl

end SeriesQuery
