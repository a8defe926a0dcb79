import SeriesQuery.Json.Printer
import SeriesQuery.Proofs.Builder.Log
import SeriesQuery.Proofs.Builder.Representation
import SeriesQuery.Query.Payload

/-!
# The order of bindings leaves no trace

Two builders of one template whose accepted bindings are rearrangements of each other hold the same
bindings, as long as those of one name keep their order: a name has the cell of its last binding, and
which one that is can be told from the bindings of the name alone. Every key is the bytes of a name,
and a sorted map is determined by its look-ups, so the maps are the same also as lists. Whatever is
read off from them is then the same, the text of a request body included.
-/

namespace SeriesQuery

/-- The same bindings in another order, where those of one name keep theirs. -/
structure Rearranged (left right : List (String × Cell)) : Prop where
  perm : left.Perm right
  sameName : ∀ name,
    (left.filter fun entry => entry.1 == name) = right.filter fun entry => entry.1 == name

/-- The bindings that the events of a log have made, in their order. -/
def acceptedBindings (log : List Event) : List (String × Cell) :=
  log.flatMap Event.bindings

theorem lookup_filter_name (entries : List (String × Cell)) (name : String) :
    (entries.filter fun entry => entry.1 == name).lookup name = entries.lookup name := by
  induction entries with
  | nil => rfl
  | cons entry rest ih =>
    by_cases hname : entry.1 = name
    · rw [List.filter_cons_of_pos (by simpa using hname), SortedMap.lookup_entry,
        SortedMap.lookup_entry, ih]
    · rw [List.filter_cons_of_neg (by simpa using hname), SortedMap.lookup_entry, ih,
        if_neg (Ne.symm hname)]

/-- The last binding of a name is the same in both orders. -/
theorem Rearranged.lookup_reverse {left right : List (String × Cell)} (h : Rearranged left right)
    (name : String) : left.reverse.lookup name = right.reverse.lookup name := by
  calc left.reverse.lookup name
      = (left.filter fun entry => entry.1 == name).reverse.lookup name := by
        rw [← List.filter_reverse, lookup_filter_name]
    _ = (right.filter fun entry => entry.1 == name).reverse.lookup name := by
        rw [h.sameName name]
    _ = right.reverse.lookup name := by
        rw [← List.filter_reverse, lookup_filter_name]

theorem Represents.get?_eq_none {template : String} {b : QueryBuilder}
    (h : Represents template b) {key : Bytes} (hkey : ¬∃ name, Utf8.ofString name = key) :
    b.bindings.get? key = none := by
  by_contra hsome
  have hcontains : b.bindings.contains key := Option.isSome_iff_ne_none.2 hsome
  obtain ⟨name, -, hname⟩ := h.declared key ((SortedMap.mem_keys_iff _ _).2 hcontains)
  exact hkey ⟨name, hname⟩

namespace Recorded

variable {template : String} {start b b' : QueryBuilder} {log log' : List Event}

theorem bindings_eq_of_rearranged (hnew : QueryBuilder.new template = .ok start)
    (h : Recorded start log b) (h' : Recorded start log' b')
    (hsame : Rearranged (acceptedBindings log) (acceptedBindings log')) :
    b.bindings = b'.bindings := by
  apply SortedMap.ext_get?
  intro key
  by_cases hkey : ∃ name, Utf8.ofString name = key
  · obtain ⟨name, rfl⟩ := hkey
    rw [(h.refines hnew).get?_eq, (h'.refines hnew).get?_eq]
    exact hsame.lookup_reverse name
  · rw [(Represents.of_recorded hnew h).get?_eq_none hkey,
      (Represents.of_recorded hnew h').get?_eq_none hkey]

theorem placeholders_eq (hnew : QueryBuilder.new template = .ok start)
    (h : Recorded start log b) (h' : Recorded start log' b') :
    b.placeholders = b'.placeholders := by
  have hscan := (Represents.of_recorded hnew h).scan_eq
  have hscan' := (Represents.of_recorded hnew h').scan_eq
  exact Except.ok.inj (hscan.symm.trans hscan')

end Recorded

/-- Two builders of sessions with one template, whose accepted bindings are rearrangements of each
other that keep the order of the bindings of each name, however they were cut into calls: their
queries are equal, the same names are unbound, and the request bodies are the same bytes. -/
theorem order_of_bindings_leaves_no_trace {template : String} {start : QueryBuilder}
    (hnew : QueryBuilder.new template = .ok start) {steps steps' : List Step} {held held' : Holding}
    (hmem : held ∈ holdings start steps) (hmem' : held' ∈ holdings start steps')
    (hsame : Rearranged (acceptedBindings held.log) (acceptedBindings held'.log)) :
    (QueryBuilder.build.run held.builder).1 = (QueryBuilder.build.run held'.builder).1 ∧
      held.builder.unbound = held'.builder.unbound ∧
      Utf8.ofString (QueryBuilder.build.run held.builder).1.payload.compactText =
        Utf8.ofString (QueryBuilder.build.run held'.builder).1.payload.compactText := by
  have hrecorded := recorded_of_mem_holdings hmem
  have hrecorded' := recorded_of_mem_holdings hmem'
  have hbindings := hrecorded.bindings_eq_of_rearranged hnew hrecorded' hsame
  have hnames := hrecorded.placeholders_eq hnew hrecorded'
  have htemplate : held.builder.template = held'.builder.template :=
    (hrecorded.refines hnew).template_eq.trans (hrecorded'.refines hnew).template_eq.symm
  have hquery : (QueryBuilder.build.run held.builder).1 =
      (QueryBuilder.build.run held'.builder).1 := by
    rw [QueryBuilder.build_run, QueryBuilder.build_run, htemplate, hbindings]
  refine ⟨hquery, ?_, by rw [hquery]⟩
  rw [QueryBuilder.unbound, QueryBuilder.unbound, hnames]
  apply List.filter_congr
  intro name _
  rw [QueryBuilder.isBound, QueryBuilder.isBound, hbindings]

/-- One batch with a name that is bound twice, and two calls with the names the other way round. -/
theorem order_of_bindings_leaves_no_trace_of_batch :
    ∃ start, QueryBuilder.new ":a < :b" = .ok start ∧
      ∃ held ∈ holdings start
          [.perform 0 (.bindAll [(":b", .null), (":a", .boolean true), (":b", .boolean false)])],
        ∃ held' ∈ holdings start
            [.perform 0 (.bind ":a" (.boolean true)),
              .perform 0 (.bindAll [(":b", .null), (":b", .boolean false)])],
          Rearranged (acceptedBindings held.log) (acceptedBindings held'.log) ∧
            (acceptedBindings held.log).length = 3 ∧
            (QueryBuilder.build.run held.builder).1 = (QueryBuilder.build.run held'.builder).1 := by
  obtain ⟨start, hnew⟩ : ∃ start, QueryBuilder.new ":a < :b" = .ok start := ⟨_, rfl⟩
  let held := Holding.perform ⟨start, []⟩
    (.bindAll [(":b", .null), (":a", .boolean true), (":b", .boolean false)])
  let held' := (Holding.perform ⟨start, []⟩ (.bind ":a" (.boolean true))).perform
    (.bindAll [(":b", .null), (":b", .boolean false)])
  have hmem : held ∈ holdings start
      [.perform 0 (.bindAll [(":b", .null), (":a", .boolean true), (":b", .boolean false)])] :=
    List.mem_cons_self
  have hmem' : held' ∈ holdings start
      [.perform 0 (.bind ":a" (.boolean true)),
        .perform 0 (.bindAll [(":b", .null), (":b", .boolean false)])] := List.mem_cons_self
  have hlog : acceptedBindings held.log =
      [(":b", .null), (":a", .boolean true), (":b", .boolean false)] := by
    obtain rfl := Except.ok.inj hnew
    rfl
  have hlog' : acceptedBindings held'.log =
      [(":a", .boolean true), (":b", .null), (":b", .boolean false)] := by
    obtain rfl := Except.ok.inj hnew
    rfl
  have hsame : Rearranged (acceptedBindings held.log) (acceptedBindings held'.log) := by
    rw [hlog, hlog']
    refine ⟨by decide, fun name => ?_⟩
    by_cases ha : ":a" = name
    · subst ha
      decide
    · simp [List.filter_cons, ha]
  exact ⟨start, hnew, held, hmem, held', hmem', hsame, by rw [hlog]; rfl,
    (order_of_bindings_leaves_no_trace hnew hmem hmem' hsame).1⟩

end SeriesQuery
