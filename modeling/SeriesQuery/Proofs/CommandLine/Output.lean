import SeriesQuery.CommandLine.Run
import SeriesQuery.Proofs.Remote.Refusal
import SeriesQuery.Proofs.Result.Text

/-!
# What a run prints for a reply

Only an execution sends requests. What it prints depends on nothing but the outcome of the last reply,
unless that is to be followed. When the reply means a result, the document that is printed denotes that
result, in a layout for a reader as well as on one line.
-/

namespace SeriesQuery.CommandLine

theorem report_requests (s : Surroundings) (requests : List Request)
    (outcome : Except Error Json) : (report s requests outcome).requests = requests := by
  cases outcome <;> rfl

/-- All that a run with requests can do. -/
theorem exec_of_requests {s : Surroundings} {words : List Bytes}
    (h : (run s words).requests ≠ []) :
    ∃ a settings remote query,
      parse words = .ok (.exec a settings) ∧
      remoteAndQuery s a settings = .ok (remote, query) ∧
      run s words = report s (remote.sent s.endpoint query)
        ((remote.execute s.endpoint query s.explain).map QueryResult.toJson) := by
  rw [run] at h ⊢
  cases hwords : parse words with
  | error flaw =>
    rw [hwords] at h
    exact absurd (report_requests s [] _) h
  | ok invocation =>
    simp only [hwords] at h ⊢
    cases invocation with
    | help | version | nothing => exact absurd rfl h
    | scan | build => exact absurd (report_requests s [] _) h
    | exec a settings =>
      rw [perform, execOutcome] at h ⊢
      cases hquery : remoteAndQuery s a settings with
      | error e =>
        rw [hquery] at h
        exact absurd (report_requests s [] _) h
      | ok found => exact ⟨a, settings, found.1, found.2, rfl, hquery, rfl⟩

/-- The document of a result is read as the result, in either layout. -/
theorem parse_documentText (forTerminal : Bool) (r : QueryResult) :
    QueryResult.parse (documentText forTerminal r.toJson).toList = .ok r := by
  have hline : ∀ c ∈ ['\n'], Json.isSpace c := List.forall_mem_singleton.2 rfl
  rw [documentText, r.sortMembers_toJson, String.toList_append]
  cases forTerminal with
  | true =>
    have htext : r.toJson.indentedText.toList = r.toJson.written .indented 0 :=
      String.toList_ofList
    rw [if_pos rfl, htext]
    exact r.parse_written Json.Layout.blank_indented 0 hline
  | false =>
    have htext : r.toJson.compactText.toList = r.toJson.written .compact 0 :=
      String.toList_ofList
    rw [if_neg Bool.false_ne_true, htext]
    exact r.parse_written Json.Layout.blank_compact 0 hline

/-- The text of a result is read as the result. When a run gets a reply that means a result, however
its body is written, the run succeeds and prints a text that is read as the same result. -/
theorem results_pass_unchanged (r : QueryResult) :
    QueryResult.parse r.toJson.compactText.toList = .ok r ∧
    ∀ (s : Surroundings) (words : List Bytes) (reply : Reply),
      (run s words).requests ≠ [] → s.endpoint (run s words).requests = some reply →
      reply.IsFinal (run s words).requests.length → reply.toResult s.explain = .ok r →
        (run s words).exitCode = 0 ∧ (run s words).error = "" ∧
          QueryResult.parse (run s words).output.toList = .ok r := by
  refine ⟨r.parse_compactText, fun s words reply hsent hreply hfinal hresult => ?_⟩
  obtain ⟨_, _, remote, query, _, _, hrun⟩ := exec_of_requests hsent
  have hrequests : (run s words).requests = remote.sent s.endpoint query := by
    rw [hrun, report_requests]
  rw [hrequests] at hsent hreply hfinal
  have hexecute := (Remote.brings_of_sent hreply hsent hfinal).execute_eq s.explain
  rw [hexecute, hresult] at hrun
  rw [hrun]
  exact ⟨rfl, rfl, parse_documentText s.outputIsTerminal r⟩

/-- A body without columns, with rows of different lengths, white space and an escape, printed for a
reader. -/
theorem results_pass_unchanged_of_bare_rows :
    ∃ (s : Surroundings) (words : List Bytes) (request : Request) (reply : Reply) (r : QueryResult),
      (run s words).requests = [request] ∧ s.endpoint [request] = some reply ∧
      reply.status = 200 ∧ reply.toResult s.explain = .ok r ∧ s.outputIsTerminal ∧
      r = { rows := [[.boolean true], []] } ∧
      QueryResult.parse (run s words).output.toList = .ok r := by
  let body := "\x7b \"ro\\u0077s\" : [[\x7b\"value\":true,\"type\":\"boolean\"\x7d], []]\x7d"
  let reply : Reply := { status := 200, body := Utf8.ofString body }
  let s : Surroundings :=
    { environment := fun _ => none
      contentOf := fun _ => .error .notFound
      endpoint := fun _ => some reply
      outputIsTerminal := true
      errorIsTerminal := false }
  let words := ["exec", ":a", "--url", "http://h"].map Utf8.ofString
  obtain ⟨request, hrequests⟩ : ∃ request, (run s words).requests = [request] :=
    List.length_eq_one_iff.1 (by decide +kernel)
  have hresult : reply.toResult s.explain = .ok { rows := [[.boolean true], []] } := by
    have htext : reply.text? = some body.toList := Reply.text?_of_body rfl rfl (by decide) rfl
    have hparse : QueryResult.parse body.toList = .ok { rows := [[.boolean true], []] } := by
      decide +kernel
    exact (Reply.toResult_eq_ok_iff (by decide) s.explain _).2 ⟨_, htext, hparse⟩
  have hsent : (run s words).requests ≠ [] := hrequests ▸ List.cons_ne_nil request []
  have hpass := (results_pass_unchanged { rows := [[.boolean true], []] }).2 s words reply
    hsent rfl (.inl rfl) hresult
  exact ⟨s, words, request, reply, _, hrequests, rfl, rfl, hresult, rfl, rfl, hpass.2.2⟩

end SeriesQuery.CommandLine
