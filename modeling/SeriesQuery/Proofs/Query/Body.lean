import SeriesQuery.Proofs.Builder.Representation
import SeriesQuery.Proofs.Cell.Json
import SeriesQuery.Query.Payload

/-!
# What a request body holds

The body of a request is the compact text of the payload. It denotes a tree from which the text of
the query and all its bindings can be read again. The names of the bindings are the bytes of
declared names, so they are text, and writing them as text replaces nothing. Two queries that
builders give have the same body only when they are the same.
-/

namespace SeriesQuery.Query

open Json (Plain)

theorem bindingOf?_interpolation (entry : Bytes × Cell) :
    bindingOf? (interpolation entry).sortMembers = some (named entry) := by
  have hmembers : (interpolation entry).sortMembers = .object (Json.sortEntries
      [("name", .string (named entry).1), ("cell", entry.2.toJson)] []) := rfl
  have hname : (Json.sortEntries
      [("name", .string (named entry).1), ("cell", entry.2.toJson)] []).lookup "name" =
      some (.string (named entry).1) := by
    rw [Json.lookup_sortEntries]
    rfl
  have hcell : (Json.sortEntries
      [("name", .string (named entry).1), ("cell", entry.2.toJson)] []).lookup "cell" =
      some entry.2.toJson.sortMembers := by
    rw [Json.lookup_sortEntries]
    rfl
  rw [hmembers, bindingOf?]
  simp only [hname, hcell, Cell.ofJson_sortMembers_toJson]
  rfl

theorem mapM_bindingOf? (entries : List (Bytes × Cell)) :
    (Json.sortItems (entries.map interpolation)).mapM bindingOf? = some (entries.map named) := by
  induction entries with
  | nil => rfl
  | cons entry rest ih =>
    rw [List.map_cons, Json.sortItems, List.mapM_cons, bindingOf?_interpolation, ih]
    rfl

theorem contentOf?_payload (q : Query) :
    contentOf? q.payload.sortMembers = some (q.text, q.interpolations.map named) := by
  have hmembers : q.payload.sortMembers = .object (Json.sortEntries [("query", .string q.text),
      ("interpolations", .array (q.interpolations.map interpolation))] []) := rfl
  have htext : (Json.sortEntries [("query", .string q.text),
      ("interpolations", .array (q.interpolations.map interpolation))] []).lookup "query" =
      some (.string q.text) := by
    rw [Json.lookup_sortEntries]
    rfl
  have hitems : (Json.sortEntries [("query", .string q.text),
      ("interpolations", .array (q.interpolations.map interpolation))] []).lookup
      "interpolations" = some (.array (Json.sortItems (q.interpolations.map interpolation))) := by
    rw [Json.lookup_sortEntries]
    rfl
  rw [hmembers, contentOf?]
  simp only [htext, hitems, mapM_bindingOf?]
  rfl

theorem plain_payload (q : Query) (depth : Nat) : Plain (depth + 6) q.payload := by
  have hentry (entry : Bytes × Cell) : Plain (depth + 4) (interpolation entry) :=
    .pair (.string _) (entry.2.plain_toJson depth)
  exact .pair (.string _) (.map hentry q.interpolations)

/-- The body of a request is JSON, and it denotes the payload. -/
theorem parse_body (q : Query) :
    Json.parse q.payload.compactText.toList = .ok q.payload.sortMembers := by
  rw [Json.compactText, String.toList_ofList]
  exact Json.parse_compact (q.plain_payload (Json.depthLimit - 6))

/-! ### Names -/

/-- The names of the bindings are the bytes of texts. -/
theorem Obtainable.exists_name {q : Query} (h : q.Obtainable) {entry : Bytes × Cell}
    (hentry : entry ∈ q.interpolations) : ∃ name, Utf8.ofString name = entry.1 := by
  obtain ⟨template, b, hrepresents, rfl⟩ := h.exists_builder
  obtain ⟨name, _, hname⟩ := hrepresents.declared entry.1 (List.mem_map_of_mem hentry)
  exact ⟨name, hname⟩

theorem Obtainable.decode_name {q : Query} (h : q.Obtainable) {entry : Bytes × Cell}
    (hentry : entry ∈ q.interpolations) :
    Utf8.decode entry.1 = .ok (Utf8.decodeLossy entry.1) := by
  obtain ⟨name, hname⟩ := h.exists_name hentry
  rw [← hname, Utf8.decode_ofString, Utf8.decodeLossy_ofString]

theorem Obtainable.ofString_named {q : Query} (h : q.Obtainable) :
    (q.interpolations.map named).map (fun binding => (Utf8.ofString binding.1, binding.2)) =
      q.interpolations := by
  rw [List.map_map]
  refine (List.map_congr_left fun entry hentry => ?_).trans (List.map_id _)
  obtain ⟨name, hname⟩ := h.exists_name hentry
  refine Prod.ext ?_ rfl
  change Utf8.ofString (String.ofList (Utf8.decodeLossy entry.1)) = entry.1
  rw [← hname, Utf8.decodeLossy_ofString, String.ofList_toList]

/-- Two queries that can be obtained have the same body only when they are the same. -/
theorem Obtainable.body_inj {q q' : Query} (h : q.Obtainable) (h' : q'.Obtainable) :
    q.payload.compactText = q'.payload.compactText ↔ q = q' := by
  constructor
  · intro hbody
    have hparse := q.parse_body
    rw [hbody, q'.parse_body] at hparse
    have hcontent := q.contentOf?_payload
    rw [← Except.ok.inj hparse, q'.contentOf?_payload] at hcontent
    obtain ⟨htext, hbindings⟩ := Prod.mk.inj (Option.some.inj hcontent)
    have hentries : q.interpolations = q'.interpolations := by
      rw [← h.ofString_named, ← h'.ofString_named, hbindings]
    obtain ⟨text, ⟨entries, hascending⟩⟩ := q
    obtain ⟨text', ⟨entries', hascending'⟩⟩ := q'
    obtain rfl : text' = text := htext
    obtain rfl : entries = entries' := hentries
    rfl
  · rintro rfl
    rfl

/-- The body of a query that can be obtained holds its text and its bindings, in the order of the
bytes of their names, which are text. Different queries have different bodies. -/
theorem bodies_lose_nothing {q : Query} (h : q.Obtainable) :
    ∃ tree bindings, Json.parse q.payload.compactText.toList = .ok tree ∧
      contentOf? tree = some (q.text, bindings) ∧
      bindings.map (fun binding => (Utf8.ofString binding.1, binding.2)) = q.interpolations ∧
      (bindings.map fun binding => Utf8.ofString binding.1).Pairwise (· < ·) ∧
      (∀ entry ∈ q.interpolations, Utf8.decode entry.1 = .ok (Utf8.decodeLossy entry.1)) ∧
      ∀ q' : Query, q'.Obtainable →
        (q.payload.compactText = q'.payload.compactText ↔ q = q') := by
  refine ⟨_, _, q.parse_body, q.contentOf?_payload, h.ofString_named, ?_,
    fun entry hentry => h.decode_name hentry, fun q' h' => h.body_inj h'⟩
  have hnames : ((q.interpolations.map named).map fun binding => Utf8.ofString binding.1) =
      q.bindings.keys := by
    have hfirst := congrArg (List.map Prod.fst) h.ofString_named
    rw [List.map_map] at hfirst
    exact hfirst
  rw [hnames]
  exact q.bindings.keys_ascending

/-- A template with two names, one of them bound. -/
theorem bodies_lose_nothing_of_one_binding :
    ∃ q : Query, q.text = ":b > :a" ∧ q.size = 1 ∧
      ∃ tree bindings, Json.parse q.payload.compactText.toList = .ok tree ∧
        contentOf? tree = some (q.text, bindings) ∧
        bindings.map (fun binding => (Utf8.ofString binding.1, binding.2)) =
          q.interpolations := by
  obtain ⟨start, hnew⟩ : ∃ start, QueryBuilder.new ":b > :a" = .ok start := ⟨_, rfl⟩
  let bound := Operation.after (.bind ":b" .null) start
  let q : Query := { text := bound.template, bindings := bound.bindings }
  have hmem : (Holding.perform ⟨start, []⟩ (.bind ":b" .null)).perform .build ∈
      holdings start [.perform 0 (.bind ":b" .null), .perform 0 .build] := List.mem_cons_self
  have hobtainable : q.Obtainable :=
    ⟨_, start, _, hnew, _, hmem, Operation.event .build bound, by simp [Holding.perform, bound],
      by rw [Operation.event, Operation.answer, Operation.build_on]⟩
  obtain ⟨tree, bindings, hparse, hcontent, hbindings, _⟩ := bodies_lose_nothing hobtainable
  obtain rfl := Except.ok.inj hnew
  exact ⟨q, rfl, rfl, tree, bindings, hparse, hcontent, hbindings⟩

end SeriesQuery.Query
