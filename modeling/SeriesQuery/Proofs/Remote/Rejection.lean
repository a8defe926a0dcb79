import SeriesQuery.Proofs.Error.Envelope
import SeriesQuery.Proofs.Remote.Refusal

/-!
# What a rejected query fails with

A reply with a status from 400 on rejects the query. A body that reports an error decides everything
about the failure, and the status nothing. A body that reports none decides nothing: the kind then
follows from the status, and the message names it. Two kinds of bodies hide a report that stands in
them. One has a key that is no text, although other members do not matter; the other is longer than
what is read.
-/

namespace SeriesQuery

namespace Reply

theorem toResult_of_le {r : Reply} (h : 400 ≤ r.status) (explain : Explanation) :
    r.toResult explain = .error (refusal r.status (r.text?.getD [])) :=
  if_neg (Nat.not_lt.2 h)

theorem refusal_of_lacksError {text : List Char} (h : Error.LacksError text) (status : Nat) :
    refusal status text =
      { kind := kindOfStatus status, message := some s!"remote error status {status}" } := by
  rw [refusal]
  cases hparse : Error.parse text with
  | ok e => exact absurd hparse (Error.parse_ne_ok_of_lacksError h e)
  | error fault => rfl

theorem text?_of_long {r : Reply} (hstatus : hasNoBody r.status = false)
    (hlong : bodyLimit < r.body.length) : r.text? = none := by
  rw [text?_eq_none_iff, text, hstatus, if_neg Bool.false_ne_true, if_pos hlong]
  exact ⟨_, rfl⟩

end Reply

/-- A rejection takes its kind and its texts either all from the report in the body, whatever the
status, or all from the status. It has no causes. A body that is not read counts as an empty one. -/
theorem Remote.rejections_follow_body (remote : Remote) (endpoint : Endpoint) (q : Query)
    (explain : Explanation) {reply : Reply} (hreply : remote.Brings endpoint q reply)
    (hstatus : 400 ≤ reply.status) :
    (∀ kind message hint parameter,
      Error.ReportsError (reply.text?.getD []) kind message hint parameter →
      remote.execute endpoint q explain = .error {
        kind := (ErrorKind.ofName? kind).getD .internal
        message, hint, parameter, causes := [] }) ∧
    (Error.LacksError (reply.text?.getD []) →
      ∃ kind, Reply.StatusMeans reply.status kind ∧ remote.execute endpoint q explain = .error {
        kind, message := some s!"remote error status {reply.status}"
        hint := none, parameter := none, causes := [] }) := by
  rw [hreply.execute_eq explain, Reply.toResult_of_le hstatus]
  constructor
  · intro kind message hint parameter hreports
    have hparse := Error.parse_of_reportsError hreports
    rw [Reply.refusal, hparse]
  · intro hlacks
    exact ⟨_, Reply.statusMeans_kindOfStatus reply.status,
      congrArg _ (Reply.refusal_of_lacksError hlacks reply.status)⟩

/-! ### A report of nothing but a kind -/

namespace Error

open Json (Member Object Spelled Sole)

/-- The member that gives the kind. -/
def kindMember (tail : List Char) : Member where
  key := "kind\":\"Io\"\x7d".toList ++ tail
  value := "\"Io\"\x7d".toList ++ tail
  rest := '}' :: tail

/-- The member that holds the report. -/
def reportMember (tail : List Char) : Member where
  key := "error\":\x7b\"kind\":\"Io\"\x7d".toList ++ tail
  value := "\x7b\"kind\":\"Io\"\x7d".toList ++ tail
  rest := tail

/-- A text that begins with the report as its first member. -/
def reportText (tail : List Char) : List Char :=
  '{' :: '"' :: (reportMember tail).key

variable (tail : List Char)

theorem spelled_reportMember :
    Spelled (reportMember tail).key "error" (':' :: (reportMember tail).value) :=
  Json.readText_eq_ok_iff (s := "error".toList).1 rfl

theorem spelled_kindMember :
    Spelled (kindMember tail).key "kind" (':' :: (kindMember tail).value) :=
  Json.readText_eq_ok_iff (s := "kind".toList).1 rfl

theorem isText_kindMember : (kindMember tail).IsText "Io" :=
  ⟨_, .refl _, Json.readText_eq_ok_iff (s := "Io".toList).1 rfl⟩

theorem object_reportMember : Object (reportMember tail).value [kindMember tail] tail :=
  ⟨_, .refl _, .member rfl (.refl _) (spelled_kindMember tail).literal (.refl _)
    (isText_kindMember tail).value (.noMember (.refl _))⟩

theorem reports_kindMember : Reports [kindMember tail] "Io" none none none := by
  have hother {name : String} (hne : "kind" ≠ name) : ∀ m ∈ [kindMember tail], ¬m.IsNamed name := by
    rintro m hm ⟨rest, hname⟩
    obtain rfl := List.mem_singleton.1 hm
    exact hne ((spelled_kindMember tail).unique hname)
  exact ⟨List.forall_mem_singleton.2 ⟨_, _, spelled_kindMember tail⟩,
    ⟨_, ⟨[], [], rfl, ⟨_, spelled_kindMember tail⟩, List.forall_mem_nil _⟩, isText_kindMember tail⟩,
    .missing (hother (by decide)), .missing (hother (by decide)), .missing (hother (by decide))⟩

/-- Members behind the report complete the object. -/
theorem object_reportText {members : List Member} {rest : List Char}
    (h : Json.Derives (.members false members) tail rest) :
    Object (reportText tail) (reportMember tail :: members) rest := by
  obtain ⟨body, hbody, hmembers⟩ := object_reportMember tail
  exact ⟨_, .refl _, .member rfl (.refl _) (spelled_reportMember tail).literal (.refl _)
    (.object hbody hmembers) h⟩

/-- White space may follow the report. -/
theorem reportsError_reportText {gap : List Char} (hgap : ∀ c ∈ gap, Json.isSpace c) :
    ReportsError (reportText ('}' :: gap)) "Io" none none none :=
  have hnamed := spelled_reportMember ('}' :: gap)
  .object (object_reportText _ (.noMember (.refl _))) hgap
    (List.forall_mem_singleton.2 ⟨_, _, hnamed⟩)
    ⟨[], [], rfl, ⟨_, hnamed⟩, List.forall_mem_nil _⟩ (object_reportMember _) (reports_kindMember _)

/-- White space makes a report as long as one likes. -/
theorem exists_long_report (length : Nat) : ∃ gap : List Char, (∀ c ∈ gap, Json.isSpace c) ∧
    length < (Utf8.encode (reportText ('}' :: gap))).length := by
  have hspace : ∀ c ∈ List.replicate length ' ', c = ' ' := fun c => List.eq_of_mem_replicate
  have hascii : ∀ c ∈ List.replicate length ' ', c.toNat < 0x80 := by
    intro c hc
    rw [hspace c hc]
    decide
  refine ⟨List.replicate length ' ', fun c hc => hspace c hc ▸ rfl, ?_⟩
  have htext : reportText ('}' :: List.replicate length ' ') =
      reportText ['}'] ++ List.replicate length ' ' := rfl
  rw [htext, Utf8.encode_append, Utf8.encode_ascii hascii, List.length_append, List.length_map,
    List.length_replicate]
  exact Nat.lt_add_of_pos_left (by decide)

/-- A member whose key has half of a surrogate pair. -/
def unnamedMember : Member where
  key := "\\ud800\":null\x7d".toList
  value := "null\x7d".toList
  rest := ['}']

/-- What stands behind the report when another member follows that has no name. -/
def unnamedTail : List Char :=
  ',' :: '"' :: unnamedMember.key

theorem not_isNamed_unnamedMember (name : String) : ¬unnamedMember.IsNamed name := by
  rintro ⟨rest, hname⟩
  have hnone : (Json.readText unnamedMember.key).toOption = none := by decide +kernel
  rw [← String.ofList_toList (s := name), ← Json.readText_eq_ok_iff] at hname
  rw [hname] at hnone
  cases hnone

theorem object_unnamedTail :
    Object (reportText unnamedTail) [reportMember unnamedTail, unnamedMember] [] := by
  have hliteral : Json.Literal unnamedMember.key (':' :: unnamedMember.value) :=
    Json.skipText_eq_ok_iff.1 rfl
  exact object_reportText unnamedTail (.member (.refl _) (.refl _) hliteral (.refl _)
    (.null (.refl _)) (.noMember (.refl _)))

theorem sole_reportMember :
    Sole [reportMember unnamedTail, unnamedMember] "error" (reportMember unnamedTail) :=
  ⟨[], [unnamedMember], rfl, ⟨_, spelled_reportMember unnamedTail⟩,
    List.forall_mem_singleton.2 (not_isNamed_unnamedMember "error")⟩

theorem lacksError_unnamedTail : LacksError (reportText unnamedTail) :=
  .badKey object_unnamedTail (List.forall_mem_nil _) (List.mem_cons_of_mem _ List.mem_cons_self)
    not_isNamed_unnamedMember

end Error

namespace Remote

/-- One status with a report in the body, and without a body. -/
theorem rejections_follow_body_of_status_503 :
    ∃ (remote : Remote) (q : Query) (reporting empty : Reply),
      reporting.status = 503 ∧ empty.status = 503 ∧
      reporting.body = Utf8.encode (Error.reportText ['}']) ∧ empty.body = [] ∧
      remote.Brings (fun _ => some reporting) q reporting ∧
      remote.Brings (fun _ => some empty) q empty ∧
      remote.execute (fun _ => some reporting) q = .error { kind := .io } ∧
      remote.execute (fun _ => some empty) q =
        .error { kind := .internal, message := some "remote error status 503" } := by
  let reporting : Reply := { status := 503, body := Utf8.encode (Error.reportText ['}']) }
  let empty : Reply := { status := 503, body := [] }
  have hreporting : bare.Brings (fun _ => some reporting) unboundQuery reporting :=
    brings_of_isFinal rfl rfl (.inl rfl)
  have hempty : bare.Brings (fun _ => some empty) unboundQuery empty :=
    brings_of_isFinal rfl rfl (.inl rfl)
  refine ⟨bare, unboundQuery, reporting, empty, rfl, rfl, rfl, rfl, hreporting, hempty, ?_, ?_⟩
  · have htext : reporting.text? = some (Error.reportText ['}']) :=
      Reply.text?_of_body rfl rfl (by decide) rfl
    have hbody := (rejections_follow_body bare _ unboundQuery .silent hreporting (by decide)).1
      "Io" none none none
    rw [htext, Option.getD_some] at hbody
    exact hbody (Error.reportsError_reportText (List.forall_mem_nil _))
  · obtain ⟨kind, hmeans, hexecute⟩ :=
      (rejections_follow_body bare _ unboundQuery .silent hempty (by decide)).2 (.empty rfl)
    have hmessage : s!"remote error status {empty.status}" = "remote error status 503" := by decide
    rw [hexecute, hmessage]
    cases kind with
    | internal => rfl
    | _ => simp [Reply.StatusMeans, empty] at hmeans

/-- A report stands in a body with a key that is no text, and another one in a body that is too
long. Neither is seen. -/
theorem hidden_reports_leave_status :
    ∃ (remote : Remote) (q : Query) (spoiled long : Reply),
      spoiled.status = 404 ∧ long.status = 404 ∧
      remote.Brings (fun _ => some spoiled) q spoiled ∧ remote.Brings (fun _ => some long) q long ∧
      (∃ (text : List Char) (members fields : List Json.Member) (m : Json.Member),
        spoiled.body = Utf8.encode text ∧ Json.Object text members [] ∧
        Json.Sole members "error" m ∧ Json.Object m.value fields m.rest ∧
        Error.Reports fields "Io" none none none) ∧
      (∃ text : List Char, long.body = Utf8.encode text ∧
        Error.ReportsError text "Io" none none none) ∧
      ∀ reply ∈ [spoiled, long], remote.execute (fun _ => some reply) q =
        .error { kind := .notFound, message := some "remote error status 404" } := by
  have hmessage : s!"remote error status {404}" = "remote error status 404" := by decide
  obtain ⟨gap, hgap, hlimit⟩ := Error.exists_long_report Reply.bodyLimit
  let spoiled : Reply :=
    { status := 404, body := Utf8.encode (Error.reportText Error.unnamedTail) }
  let long : Reply := { status := 404, body := Utf8.encode (Error.reportText ('}' :: gap)) }
  have hspoiled : bare.Brings (fun _ => some spoiled) unboundQuery spoiled :=
    brings_of_isFinal rfl rfl (.inl rfl)
  have hlong : bare.Brings (fun _ => some long) unboundQuery long :=
    brings_of_isFinal rfl rfl (.inl rfl)
  have hlacks : ∀ reply ∈ [spoiled, long], Error.LacksError (reply.text?.getD []) := by
    refine List.forall_mem_cons.2 ⟨?_, List.forall_mem_singleton.2 ?_⟩
    · have hread : spoiled.text? = some (Error.reportText Error.unnamedTail) :=
        Reply.text?_of_body rfl rfl (by decide) rfl
      rw [hread]
      exact Error.lacksError_unnamedTail
    · rw [Reply.text?_of_long rfl hlimit]
      exact .empty rfl
  refine ⟨bare, unboundQuery, spoiled, long, rfl, rfl, hspoiled, hlong,
    ⟨_, _, _, _, rfl, Error.object_unnamedTail, Error.sole_reportMember,
      Error.object_reportMember Error.unnamedTail, Error.reports_kindMember Error.unnamedTail⟩,
    ⟨_, rfl, Error.reportsError_reportText hgap⟩, fun reply hreply => ?_⟩
  have hkept : reply.status = 404 ∧ bare.Brings (fun _ => some reply) unboundQuery reply := by
    rcases List.mem_pair.1 hreply with rfl | rfl
    · exact ⟨rfl, hspoiled⟩
    · exact ⟨rfl, hlong⟩
  rw [hkept.2.execute_eq, Reply.toResult_of_le (by omega),
    Reply.refusal_of_lacksError (hlacks reply hreply), hkept.1, hmessage]
  rfl

end Remote

end SeriesQuery
