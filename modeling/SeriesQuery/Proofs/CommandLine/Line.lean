import SeriesQuery.Proofs.CommandLine.Environment
import SeriesQuery.Proofs.Error.Report
import SeriesQuery.Proofs.Json.Line
import SeriesQuery.Proofs.Query.Body
import SeriesQuery.Proofs.Remote.BaseUrl
import SeriesQuery.Proofs.Result.Text

/-!
# A run shows one line of JSON

A program that runs this one reads a line from it. Unless help or the version is asked for, a run
shows a document or an error, and away from a terminal either is one line of JSON, whatever texts
occur in it. The exit code tells which of the two it is, and the kind of the error. What a build
shows is the document that an execution of the same query would send.
-/

namespace SeriesQuery

open Json (Plain)

/-- The text is one line: only the character that ends it is a control character. -/
def IsLine (text : String) : Prop :=
  ∃ line, text = line ++ "\n" ∧ Json.Unbroken line.toList

theorem isLine_compactText {j : Json} {depth : Nat} (h : Plain depth j) :
    IsLine (j.compactText ++ "\n") := by
  refine ⟨j.compactText, rfl, ?_⟩
  rw [Json.compactText, String.toList_ofList]
  exact h.unbroken_compact

theorem Json.parse_line {layout : Json.Layout} (hlayout : layout.Blank) {j : Json}
    (h : Plain Json.depthLimit j) :
    Json.parse (String.ofList (j.written layout 0) ++ "\n").toList = .ok j.sortMembers := by
  have hline : ∀ c ∈ ['\n'], Json.isSpace c := List.forall_mem_singleton.2 rfl
  rw [String.toList_append, String.toList_ofList]
  exact Json.readWhole_append (Json.readTree_written hlayout h 0) hline

theorem ErrorKind.exitCode_bounds (kind : ErrorKind) :
    1 ≤ kind.exitCode ∧ kind.exitCode ≤ 10 := by
  cases kind <;> decide

namespace CommandLine

variable {s : Surroundings} {words : List Bytes}

/-! ### Documents and errors -/

/-- The printed document is read back with its members in order, in either layout. -/
theorem parse_document {document : Json} (h : Plain Json.depthLimit document)
    (forTerminal : Bool) :
    Json.parse (documentText forTerminal document).toList = .ok document.sortMembers := by
  rw [← h.sortMembers_sortMembers]
  cases forTerminal with
  | true => exact Json.parse_line Json.Layout.blank_indented h.sortMembers
  | false => exact Json.parse_line Json.Layout.blank_compact h.sortMembers

theorem isLine_document {document : Json} {depth : Nat} (h : Plain depth document) :
    IsLine (documentText false document) :=
  isLine_compactText h.sortMembers

theorem isLine_error (e : Error) : IsLine (errorText false e) :=
  isLine_compactText (e.plain_toJson 0)

theorem parse_error (e : Error) :
    Json.parse (errorText false e).toList =
      .ok (.object [("error", .object (Json.sortEntries e.members []))]) :=
  Json.parse_line Json.Layout.blank_compact (e.plain_toJson (Json.depthLimit - 3))

/-- The outcome is a success that shows a document on a line. -/
def Outcome.ShowsDocument (o : Outcome) : Prop :=
  o.exitCode = 0 ∧ o.error = "" ∧ IsLine o.output ∧
    ∃ document, Json.parse o.output.toList = .ok document

/-- The outcome is a failure that shows an error on a line, and the kind of that error is the one
that the exit code stands for. -/
def Outcome.ShowsError (o : Outcome) : Prop :=
  o.output = "" ∧ IsLine o.error ∧ ∃ (envelope report : List (String × Json)) (kind : ErrorKind),
    Json.parse o.error.toList = .ok (.object envelope) ∧
    envelope.lookup "error" = some (.object report) ∧
    report.lookup "kind" = some (.string kind.name) ∧
    o.exitCode = kind.exitCode ∧ 1 ≤ o.exitCode ∧ o.exitCode ≤ 10

theorem showsDocument_report (houtput : s.outputIsTerminal = false) (requests : List Request)
    {document : Json} (h : Plain Json.depthLimit document) :
    (report s requests (.ok document)).ShowsDocument := by
  have hline := isLine_document h
  rw [← houtput] at hline
  exact ⟨rfl, rfl, hline, _, parse_document h s.outputIsTerminal⟩

theorem showsError_report (herror : s.errorIsTerminal = false) (requests : List Request)
    (e : Error) : (report s requests (.error e)).ShowsError := by
  have hline := isLine_error e
  have hparse := parse_error e
  rw [← herror] at hline hparse
  exact ⟨rfl, hline, _, _, e.kind, hparse, rfl, e.lookup_kind, rfl, e.kind.exitCode_bounds⟩

/-! ### Builds -/

/-- What a build shows for a query, in either layout, and what is sent for the same query denote the
same value, although the members stand in different orders, and the value holds the query. Away from
a terminal a build shows it on one line. -/
theorem shown_query_denotes_sent_query (q : Query) :
    ∃ tree, Query.contentOf? tree = some (q.text, q.interpolations.map Query.named) ∧
      (∀ forTerminal, Json.parse (documentText forTerminal q.payload).toList = .ok tree) ∧
      (∀ (remote : Remote) (request : Request), remote.request? q = some request →
        Json.parse request.body.toList = .ok tree) ∧
      IsLine (documentText false q.payload) ∧
      ∀ (s : Surroundings) (words : List Bytes) (a : QueryArguments),
        parse words = .ok (.build a) → buildQuery s a = .ok q →
          (run s words).output = documentText s.outputIsTerminal q.payload := by
  refine ⟨q.payload.sortMembers, q.contentOf?_payload, parse_document (q.plain_payload (Json.depthLimit - 6)),
    fun remote request hrequest => ?_, isLine_document (q.plain_payload 0),
    fun s words a hwords hquery => ?_⟩
  · obtain ⟨-, hrequest⟩ := Remote.request?_eq_some_iff.1 hrequest
    rw [remote.request_eq_ok] at hrequest
    obtain rfl := Except.ok.inj hrequest
    exact q.parse_body
  · rw [run, hwords]
    simp only [perform, hquery]
    rfl

/-- A template with a quote and a line break, and a value that is a control character. -/
def brokenArguments : QueryArguments :=
  { template := "\":a\n", binds := [":a=str:\r"] }

theorem shown_query_denotes_sent_query_of_broken_text :
    ∃ (s : Surroundings) (words : List Bytes) (q : Query) (remote : Remote) (request : Request)
      (tree : Json),
      parse words = .ok (.build brokenArguments) ∧ buildQuery s brokenArguments = .ok q ∧
      remote.request? q = some request ∧
      Json.parse (run s words).output.toList = .ok tree ∧ IsLine (run s words).output ∧
      Json.parse request.body.toList = .ok tree := by
  let s := bareSurroundings none
  let words := ["build", "\":a\n", "--bind", ":a=str:\r"].map Utf8.ofString
  let remote : Remote := { base := ⟨.http, .none, .domain ['h'], none⟩ }
  have hwords : parse words = .ok (.build brokenArguments) := by decide +kernel
  obtain ⟨q, hquery⟩ : ∃ q, buildQuery s brokenArguments = .ok q :=
    exists_eq_ok_of_isSome (by decide +kernel)
  obtain ⟨tree, _, hshown, hsent, hline, hrun⟩ := shown_query_denotes_sent_query q
  have houtput := hrun s words brokenArguments hwords hquery
  refine ⟨s, words, q, remote, _, tree, hwords, hquery, rfl, ?_, ?_, hsent remote _ rfl⟩
  · rw [houtput]
    exact hshown false
  · rw [houtput]
    exact hline

/-! ### Runs -/

/-- Help or the version is asked for, or help comes because no command is given. -/
def ShowsHelp (words : List Bytes) : Prop :=
  (∃ topic, parse words = .ok (.help topic)) ∨ parse words = .ok .version ∨
    parse words = .ok .nothing

theorem plain_placeholders {template : String} {document : Json}
    (h : placeholdersDocument template = .ok document) : Plain Json.depthLimit document := by
  obtain ⟨found, _, h⟩ := exists_of_bind_eq_ok h
  obtain rfl := Except.ok.inj h
  exact .object (List.forall_mem_singleton.2 (.map (fun name => .string name) found.names))

/-- Every way through a run ends in a report, and a document that is reported is plain. -/
theorem exists_report_of_run (s : Surroundings) (h : ¬ShowsHelp words) :
    ∃ requests outcome, run s words = report s requests outcome ∧
      ∀ document, outcome = .ok document → Plain Json.depthLimit document := by
  rw [run]
  cases hwords : parse words with
  | error flaw =>
    refine ⟨_, _, rfl, fun document hdocument => ?_⟩
    cases hdocument
  | ok invocation =>
    cases invocation with
    | help topic => exact absurd (.inl ⟨topic, hwords⟩) h
    | version => exact absurd (.inr (.inl hwords)) h
    | nothing => exact absurd (.inr (.inr hwords)) h
    | scan template => exact ⟨_, _, rfl, fun document => plain_placeholders⟩
    | build a =>
      refine ⟨_, _, rfl, fun document hdocument => ?_⟩
      obtain ⟨q, _, rfl⟩ := exists_of_map_eq_ok hdocument
      exact q.plain_payload (Json.depthLimit - 6)
    | exec a settings =>
      simp only [perform, execOutcome]
      split
      · refine ⟨_, _, rfl, fun document hdocument => ?_⟩
        cases hdocument
      · refine ⟨_, _, rfl, fun document hdocument => ?_⟩
        obtain ⟨r, _, rfl⟩ := exists_of_map_eq_ok hdocument
        exact r.plain_toJson (Json.depthLimit - 6)

/-- Away from a terminal a run that shows no help either succeeds and shows one document on one
line, or fails and shows one error on one line, with the exit code of its kind. -/
theorem run_shows_one_line (houtput : s.outputIsTerminal = false)
    (herror : s.errorIsTerminal = false) (h : ¬ShowsHelp words) :
    (run s words).ShowsDocument ∨ (run s words).ShowsError := by
  obtain ⟨requests, outcome, hrun, hplain⟩ := exists_report_of_run s h
  rw [hrun]
  cases outcome with
  | ok document => exact .inl (showsDocument_report houtput requests (hplain document rfl))
  | error e => exact .inr (showsError_report herror requests e)

/-- The name that the error is about ends with a line break. -/
theorem run_shows_one_line_of_unknown_name :
    ∃ (s : Surroundings) (words : List Bytes) (a : QueryArguments),
      s.outputIsTerminal = false ∧ s.errorIsTerminal = false ∧
      parse words = .ok (.build a) ∧ a.binds = ["b\n=null"] ∧
      (run s words).exitCode = 7 ∧ (run s words).ShowsError := by
  let s := bareSurroundings none
  let words := ["build", ":a", "--bind", "b\n=null"].map Utf8.ofString
  have hwords : parse words = .ok (.build { template := ":a", binds := ["b\n=null"] }) := by
    decide +kernel
  have hcommand : ¬ShowsHelp words := by
    rintro (⟨_, hhelp⟩ | hhelp | hhelp) <;> cases hwords.symm.trans hhelp
  have hcode : (run s words).exitCode = 7 := by decide +kernel
  refine ⟨s, words, _, rfl, rfl, hwords, rfl, hcode, ?_⟩
  refine (run_shows_one_line rfl rfl hcommand).resolve_left fun hdocument => ?_
  cases hcode.symm.trans hdocument.1

end CommandLine

end SeriesQuery
