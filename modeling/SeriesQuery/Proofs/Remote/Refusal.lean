import SeriesQuery.Proofs.Remote.Exchange
import SeriesQuery.Proofs.Text.Utf8

/-!
# Which replies are refusals

A reply is a success when its status lies between 200 and 299. Any other reply should be refused: with
the kind of error that its body reports, or else with the one that its status means. The line is
drawn at 400 instead. From there on every reply is refused, whatever its body. Below it a reply that
is no success, such as one that points to another address, is read as a success would be, so a body
that denotes a result is taken for the result of the query; even a report of an error is one, namely
the result without any columns and rows. A body that is not read, because it breaks off or is too
long, reports nothing.
-/

namespace SeriesQuery

namespace Reply

def Succeeded (r : Reply) : Prop := 200 ≤ r.status ∧ r.status ≤ 299

instance (r : Reply) : Decidable r.Succeeded := inferInstanceAs (Decidable (_ ∧ _))

/-- The kind of error that a status means by itself. -/
def StatusMeans (status : Nat) : ErrorKind → Prop
  | .usage => status = 400 ∨ status = 413
  | .permission => status = 401 ∨ status = 403
  | .notFound => status = 404
  | .internal => 500 ≤ status ∧ status ≤ 599
  | .io => status ∉ [400, 401, 403, 404, 413] ∧ ¬(500 ≤ status ∧ status ≤ 599)
  | _ => False

/-- The kind of error that the reply means unless it is a success. -/
def RefusedAs (r : Reply) (kind : ErrorKind) : Prop :=
  match Error.parse (r.text?.getD []) with
  | .ok report => kind = report.kind
  | .error _ => StatusMeans r.status kind

def IsRefusal (r : Reply) (outcome : Except Error QueryResult) : Prop :=
  ∃ e, outcome = .error e ∧ r.RefusedAs e.kind

theorem statusMeans_kindOfStatus (status : Nat) : StatusMeans status (kindOfStatus status) := by
  rw [kindOfStatus]
  split
  · assumption
  split
  · assumption
  split
  · assumption
  split
  · assumption
  · refine ⟨?_, by assumption⟩
    simp only [List.mem_cons, List.not_mem_nil, or_false]
    omega

theorem refusedAs_refusal (r : Reply) :
    r.RefusedAs (refusal r.status (r.text?.getD [])).kind := by
  rw [RefusedAs, refusal]
  cases Error.parse (r.text?.getD []) with
  | ok report => rfl
  | error fault => exact statusMeans_kindOfStatus r.status

theorem isRefusal_of_le {r : Reply} (h : 400 ≤ r.status) (explain : Explanation) :
    r.IsRefusal (r.toResult explain) := by
  refine ⟨_, ?_, r.refusedAs_refusal⟩
  rw [toResult, if_neg (Nat.not_lt.2 h)]

theorem text?_eq_some_iff {r : Reply} {text : List Char} :
    r.text? = some text ↔ r.text = .ok text := by
  rw [text?]
  cases r.text <;> simp [Except.toOption]

theorem text?_eq_none_iff {r : Reply} : r.text? = none ↔ ∃ fault, r.text = .error fault := by
  rw [text?]
  cases r.text <;> simp [Except.toOption]

/-- A body that arrives and is not too long is read. -/
theorem text?_of_body {r : Reply} {text : List Char} (hbody : r.body = Utf8.encode text)
    (hstatus : hasNoBody r.status = false) (hlength : r.body.length ≤ bodyLimit)
    (hcomplete : r.complete) : r.text? = some text := by
  rw [text?_eq_some_iff, Reply.text, hstatus, if_neg Bool.false_ne_true,
    if_neg (Nat.not_lt.2 hlength), if_pos hcomplete, hbody, Utf8.decodeLossy_encode]

theorem toResult_of_text {r : Reply} (h : r.status < 400) {text : List Char}
    (htext : r.text = .ok text) (explain : Explanation) :
    r.toResult explain = resultOfText text := by
  rw [toResult, if_pos h, htext]

theorem toResult_of_fault {r : Reply} (h : r.status < 400) {fault : TransportFault}
    (hfault : r.text = .error fault) (explain : Explanation) :
    r.toResult explain = .error (unreadableBody (explain fault)) := by
  rw [toResult, if_pos h, hfault]

theorem resultOfText_eq_ok_iff {text : List Char} {result : QueryResult} :
    resultOfText text = .ok result ↔ QueryResult.parse text = .ok result := by
  rw [resultOfText]
  cases QueryResult.parse text <;> simp

theorem toResult_eq_ok_iff {r : Reply} (h : r.status < 400) (explain : Explanation)
    (result : QueryResult) :
    r.toResult explain = .ok result ↔
      ∃ text, r.text? = some text ∧ QueryResult.parse text = .ok result := by
  cases htext : r.text with
  | ok text =>
    rw [toResult_of_text h htext, text?_eq_some_iff.2 htext, resultOfText_eq_ok_iff]
    simp
  | error fault =>
    rw [toResult_of_fault h htext, text?_eq_none_iff.2 ⟨fault, htext⟩]
    simp

/-- Below 400 only a report means an internal error. -/
theorem refusedAs_internal_iff {r : Reply} (h : r.status < 400) :
    r.RefusedAs .internal ↔
      ∃ report, Error.parse (r.text?.getD []) = .ok report ∧ report.kind = .internal := by
  rw [RefusedAs]
  cases Error.parse (r.text?.getD []) with
  | ok report => simp [eq_comm]
  | error fault =>
    have hmeans : ¬StatusMeans r.status .internal := fun ⟨hserver, _⟩ => by omega
    simp [hmeans]

theorem refusedAs_io_of_text?_eq_none {r : Reply} (h : r.status < 400) (htext : r.text? = none) :
    r.RefusedAs .io := by
  obtain ⟨fault, hfault⟩ : ∃ fault, Error.parse [] = .error fault := ⟨_, rfl⟩
  rw [RefusedAs, htext, Option.getD_none, hfault]
  constructor
  · simp only [List.mem_cons, List.not_mem_nil, or_false]
    omega
  · omega

/-- Below 400 a refusal comes about only when the body does not arrive, or when it is no result and
reports an internal error. -/
theorem isRefusal_iff_of_lt {r : Reply} (h : r.status < 400) (explain : Explanation) :
    r.IsRefusal (r.toResult explain) ↔
      r.text? = none ∨
        ∃ text fault report, r.text? = some text ∧ QueryResult.parse text = .error fault ∧
          Error.parse text = .ok report ∧ report.kind = .internal := by
  cases htext : r.text with
  | error fault =>
    have hnone : r.text? = none := text?_eq_none_iff.2 ⟨fault, htext⟩
    rw [toResult_of_fault h htext]
    exact iff_of_true ⟨_, rfl, refusedAs_io_of_text?_eq_none h hnone⟩ (.inl hnone)
  | ok text =>
    have hsome : r.text? = some text := text?_eq_some_iff.2 htext
    rw [toResult_of_text h htext, IsRefusal, hsome, resultOfText]
    cases hparse : QueryResult.parse text with
    | ok result => simp [hparse]
    | error fault =>
      have hinternal := refusedAs_internal_iff h
      rw [hsome, Option.getD_some] at hinternal
      rw [or_iff_right (Option.some_ne_none text)]
      constructor
      · rintro ⟨e, he, hkind⟩
        obtain rfl := Except.error.inj he
        obtain ⟨report, hreport, hkind⟩ := hinternal.1 hkind
        exact ⟨text, fault, report, rfl, hparse, hreport, hkind⟩
      · rintro ⟨_, _, report, hsame, _, hreport, hkind⟩
        obtain rfl := Option.some.inj hsame
        exact ⟨_, rfl, hinternal.2 ⟨report, hreport, hkind⟩⟩

end Reply

namespace Remote

/-- A store without a token and without a limit to the time. -/
def bare : Remote where
  base := ⟨.http, ⟨.none, .domain ['h'], none⟩⟩

/-- A query that binds nothing. -/
def unboundQuery : Query where
  text := ":a"
  bindings := .empty

/-- What a query comes to is decided by the reply that its exchange brings. From the status 400 on
that is refused. Any other reply brings the result that its body denotes, and is refused only when the
body is not read, or when it reports an internal error and denotes no result. -/
theorem refusals_begin_at_four_hundred (remote : Remote) (endpoint : Endpoint) (q : Query)
    (explain : Explanation) {reply : Reply} (hreply : remote.Brings endpoint q reply) :
    (400 ≤ reply.status → reply.IsRefusal (remote.execute endpoint q explain)) ∧
    (reply.status < 400 →
      (∀ result, remote.execute endpoint q explain = .ok result ↔
        ∃ text, reply.text? = some text ∧ QueryResult.parse text = .ok result) ∧
      (reply.IsRefusal (remote.execute endpoint q explain) ↔
        reply.text? = none ∨
          ∃ text fault report, reply.text? = some text ∧ QueryResult.parse text = .error fault ∧
            Error.parse text = .ok report ∧ report.kind = .internal)) := by
  rw [hreply.execute_eq explain]
  exact ⟨fun h => Reply.isRefusal_of_le h explain,
    fun h => ⟨Reply.toResult_eq_ok_iff h explain, Reply.isRefusal_iff_of_lt h explain⟩⟩

/-- One report comes with two statuses: it is an error of the reported kind, and it is the empty
result. -/
theorem refusals_begin_at_four_hundred_of_report :
    ∃ (remote : Remote) (q : Query) (refused redirected : Reply),
      refused.status = 503 ∧ redirected.status = 302 ∧ refused.body = redirected.body ∧
      remote.Brings (fun _ => some refused) q refused ∧
      remote.Brings (fun _ => some redirected) q redirected ∧
      (∃ e, remote.execute (fun _ => some refused) q = .error e ∧ e.kind = .notFound) ∧
      remote.execute (fun _ => some redirected) q = .ok {} := by
  let report := "\x7b\"error\":\x7b\"kind\":\"NotFound\"\x7d\x7d"
  let refused : Reply := { status := 503, body := Utf8.ofString report }
  let redirected : Reply := { status := 302, body := Utf8.ofString report }
  have hrefused : bare.Brings (fun _ => some refused) unboundQuery refused :=
    brings_of_isFinal rfl rfl (.inl rfl)
  have hredirected : bare.Brings (fun _ => some redirected) unboundQuery redirected :=
    brings_of_isFinal rfl rfl (.inr ⟨rfl, by decide⟩)
  refine ⟨bare, unboundQuery, refused, redirected, rfl, rfl, rfl, hrefused, hredirected, ?_, ?_⟩
  · obtain ⟨e, he, hkind⟩ :=
      (refusals_begin_at_four_hundred bare _ _ .silent hrefused).1 (by decide)
    have htext : refused.text? = some report.toList := Reply.text?_of_body rfl rfl (by decide) rfl
    have hreport : Error.parse report.toList = .ok { kind := .notFound } := by decide +kernel
    rw [Reply.RefusedAs, htext, Option.getD_some, hreport] at hkind
    exact ⟨e, he, hkind⟩
  · have hread := (refusals_begin_at_four_hundred bare _ _ .silent hredirected).2 (by decide)
    have htext : redirected.text? = some report.toList :=
      Reply.text?_of_body rfl rfl (by decide) rfl
    exact (hread.1 {}).2 ⟨report.toList, htext, by decide +kernel⟩

/-- A reply with a status for other addresses points to none and brings an empty object, which is
taken for a result. -/
theorem redirect_taken_for_result :
    ∃ (remote : Remote) (endpoint : Endpoint) (q : Query) (request : Request) (reply : Reply),
      remote.sent endpoint q = [request] ∧ endpoint [request] = some reply ∧ reply.status = 302 ∧
      reply.location = .absent ∧ reply.body = Utf8.ofString "\x7b\x7d" ∧ ¬reply.Succeeded ∧
      remote.execute endpoint q = .ok {} ∧ ¬reply.IsRefusal (remote.execute endpoint q) := by
  let reply : Reply := { status := 302, body := Utf8.ofString "\x7b\x7d" }
  have hresult : bare.execute (fun _ => some reply) unboundQuery = .ok {} := by decide +kernel
  refine ⟨bare, fun _ => some reply, unboundQuery, _, reply, rfl, rfl, rfl, rfl, rfl, by decide,
    hresult, ?_⟩
  rintro ⟨e, he, _⟩
  rw [hresult] at he
  cases he

end Remote

end SeriesQuery
