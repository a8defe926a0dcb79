import SeriesQuery.CommandLine.Run
import SeriesQuery.Proofs.Json.Skip
import SeriesQuery.Proofs.Json.Typed

/-!
# Errors through text

The program writes an error as a report, and a remote store is expected to answer with one. The two
agree: a report that is written on a line is read as the error it was made from, with its summary as
the message. What is lost is the causes, for which the reader has no use.
-/

namespace SeriesQuery

theorem ErrorKind.ofName?_name (kind : ErrorKind) : ofName? kind.name = some kind := by
  cases kind <;> rfl

namespace Json

variable {σ : Type} {layout : Layout} {depth : Nat}
  {member : σ → String → List Char → Read (σ × List Char)}

/-- Members that come after others start from the state that those lead to. -/
theorem ReadsMembers.append {start middle final : σ} {front back : List (String × Json)}
    (hfront : ReadsMembers layout depth member start front middle)
    (hback : ReadsMembers layout depth member middle back final) :
    ReadsMembers layout depth member start (front ++ back) final := by
  induction hfront with
  | nil => exact hback
  | cons hvalue _ ih => exact .cons hvalue (ih hback)

theorem skipsSpace_readStringOrNull (wanted : String) : SkipsSpace (readStringOrNull wanted) := by
  intro gap hgap text
  simp only [readStringOrNull, skipSpace_append hgap]

theorem readStringOrNull_quote (wanted s : String) :
    Reads (readStringOrNull wanted) (quote s) (some s) := by
  intro rest hrest
  have hread := (readString_quote wanted s).mapValue some rest hrest
  rw [quote_append] at hread ⊢
  rw [readStringOrNull, skipSpace_cons (by decide)]
  exact hread

end Json

namespace Error

open Json (Reads ReadsMembers Plain SkipsSpace)

variable {layout : Json.Layout} {depth : Nat}

/-- What the report of an error tells. -/
def reported (e : Error) : Error :=
  { e with message := some e.summary, causes := [] }

/-- What is read from the members of the report. -/
def reportedFields (e : Error) : ReportFields where
  kind := some e.kind.name
  message := some (some e.summary)
  hint := e.hint.map some
  parameter := e.parameter.map some

/-! ### Members of a report -/

/-- The causes are passed over. -/
theorem readReportMember_causes (hlayout : layout.Blank) (fields : ReportFields)
    (causes : List String) :
    Reads (readReportMember fields "causes")
      (':' :: (layout.afterColon ++ (Json.array (causes.map Json.string)).written layout depth))
      fields := by
  intro rest hrest
  have hplain : Plain 1 (.array (causes.map Json.string)) := .map (fun s => .string s) causes
  obtain ⟨c, body, hbody, _, _⟩ := Json.beginsItem_written hplain layout depth
  have hlength : 1 ≤ ((Json.array (causes.map Json.string)).written layout depth).length :=
    hbody ▸ Nat.succ_pos body.length
  have hskip := Json.skipValue_behindColon hlayout hplain hlength rest hrest
  rw [readReportMember, if_neg (by decide), if_neg (by decide), if_neg (by decide),
    if_neg (by decide)]
  exact (bind_assoc _ _ _).symm.trans (congrArg (· >>= fun rest => pure (fields, rest)) hskip)

theorem readOptional_written (hlayout : layout.Blank) (name text : String) :
    Reads (Json.readOnce name none readOptional)
      (':' :: (layout.afterColon ++ Json.quote text)) (some (some text)) :=
  Json.readOnce_written hlayout (Json.skipsSpace_readStringOrNull _)
    (Json.readStringOrNull_quote "a string" text) name

theorem readReportMember_hint (hlayout : layout.Blank) (fields : ReportFields)
    (h : fields.hint = none) (hint : String) :
    Reads (readReportMember fields "hint") (':' :: (layout.afterColon ++ Json.quote hint))
      { fields with hint := some (some hint) } := by
  intro rest hrest
  have hread := readOptional_written hlayout "hint" hint
  rw [readReportMember, if_neg (by decide), if_neg (by decide), if_pos rfl, h]
  exact hread.mapValue (fun hint => { fields with hint }) rest hrest

theorem readReportMember_kind (hlayout : layout.Blank) (fields : ReportFields)
    (h : fields.kind = none) (kind : String) :
    Reads (readReportMember fields "kind") (':' :: (layout.afterColon ++ Json.quote kind))
      { fields with kind := some kind } := by
  intro rest hrest
  have hread := Json.readOnce_written hlayout (Json.skipsSpace_readString _)
    (Json.readString_quote "a string" kind) "kind"
  rw [readReportMember, if_pos rfl, h]
  exact hread.mapValue (fun kind => { fields with kind }) rest hrest

theorem readReportMember_message (hlayout : layout.Blank) (fields : ReportFields)
    (h : fields.message = none) (message : String) :
    Reads (readReportMember fields "message") (':' :: (layout.afterColon ++ Json.quote message))
      { fields with message := some (some message) } := by
  intro rest hrest
  have hread := readOptional_written hlayout "message" message
  rw [readReportMember, if_neg (by decide), if_pos rfl, h]
  exact hread.mapValue (fun message => { fields with message }) rest hrest

theorem readReportMember_parameter (hlayout : layout.Blank) (fields : ReportFields)
    (h : fields.parameter = none) (parameter : String) :
    Reads (readReportMember fields "parameter")
      (':' :: (layout.afterColon ++ Json.quote parameter))
      { fields with parameter := some (some parameter) } := by
  intro rest hrest
  have hread := readOptional_written hlayout "parameter" parameter
  rw [readReportMember, if_neg (by decide), if_neg (by decide), if_neg (by decide), if_pos rfl, h]
  exact hread.mapValue (fun parameter => { fields with parameter }) rest hrest

/-- A text that may be missing leads on in either case. -/
theorem readsMembers_textMember {start : ReportFields} {name : String}
    (put : Option (Option String) → ReportFields) (hmissing : put none = start)
    (hread : ∀ text, Reads (readReportMember start name)
      (':' :: (layout.afterColon ++ Json.quote text)) (put (some (some text))))
    (value : Option String) :
    ReadsMembers layout depth readReportMember start (textMember name value)
      (put (value.map some)) := by
  cases value with
  | none => exact hmissing ▸ .nil
  | some text => exact .cons (hread text) .nil

theorem readsMembers_causesMember (hlayout : layout.Blank) (fields : ReportFields)
    (causes : List String) :
    ReadsMembers layout depth readReportMember fields (causesMember causes) fields := by
  rw [causesMember]
  split
  case isTrue => exact .nil
  case isFalse => exact .cons (readReportMember_causes hlayout fields causes) .nil

/-- The members of a report lead from no fields to all fields. -/
theorem readsMembers_members (hlayout : layout.Blank) (e : Error) :
    ReadsMembers layout depth readReportMember {} e.members e.reportedFields := by
  let hinted : ReportFields := { hint := e.hint.map some }
  let named : ReportFields := { hinted with kind := some e.kind.name }
  let told : ReportFields := { named with message := some (some e.summary) }
  have hcauses : ReadsMembers layout depth readReportMember {} (causesMember e.causes) {} :=
    readsMembers_causesMember hlayout {} e.causes
  have hhint : ReadsMembers layout depth readReportMember {} (textMember "hint" e.hint) hinted :=
    readsMembers_textMember (fun hint => { hint }) rfl (readReportMember_hint hlayout {} rfl) e.hint
  have hkind := readReportMember_kind hlayout hinted rfl e.kind.name
  have hmessage := readReportMember_message hlayout named rfl e.summary
  have hneeded : ReadsMembers layout depth readReportMember hinted
      [("kind", .string e.kind.name), ("message", .string e.summary)] told :=
    .cons hkind (.cons hmessage .nil)
  have hparameter : ReadsMembers layout depth readReportMember told
      (textMember "parameter" e.parameter) e.reportedFields :=
    readsMembers_textMember (fun parameter => { told with parameter }) rfl
      (readReportMember_parameter hlayout told rfl) e.parameter
  exact ((hcauses.append hhint).append hneeded).append hparameter

/-! ### Whole reports -/

variable {allowed : Nat}

theorem finish_reportedFields (e : Error) : e.reportedFields.finish = .ok e.reported := by
  simp only [ReportFields.finish, reportedFields, ErrorKind.ofName?_name, Option.getD_some, reported]
  cases e.hint <;> cases e.parameter <;> rfl

theorem skipsSpace_readReport (allowed : Nat) : SkipsSpace (readReport allowed) := by
  intro gap hgap text
  simp only [readReport, Json.readFields, Json.skipSpace_append hgap]

theorem readReport_written (hlayout : layout.Blank) (e : Error) :
    Reads (readReport (allowed + 1)) ((Json.object e.members).written layout depth) e.reported := by
  intro rest hrest
  have hfields : Reads (Json.readFields "struct RemoteError" (fun _ => readReportMember)
      (fun _ => readReportItems) {} (allowed + 1)) ((Json.object e.members).written layout depth)
      e.reportedFields :=
    Json.readFields_written hlayout (readsMembers_members hlayout e) _ _
  simp only [readReport, bind, Except.bind, hfields rest hrest, finish_reportedFields]
  rfl

theorem readEnvelope_written (hlayout : layout.Blank) (e : Error) :
    Reads (readEnvelope (allowed + 2)) (e.toJson.written layout depth) e.reported := by
  intro rest hrest
  have hreport : Reads (readReport (allowed + 1))
      ((Json.object e.members).written layout (depth + 1)) e.reported :=
    readReport_written hlayout e
  have honce := Json.readOnce_written hlayout (skipsSpace_readReport (allowed + 1)) hreport "error"
  have hmembers : ReadsMembers layout (depth + 1) (readEnvelopeMember (allowed + 1)) none
      [("error", .object e.members)] (some e.reported) :=
    .cons honce .nil
  have hfields := Json.readFields_written hlayout hmembers "struct ErrorEnvelope" readEnvelopeItems
    rest hrest
  rw [toJson]
  simp only [readEnvelope, bind, Except.bind, hfields]
  rfl

/-- White space may follow the text. -/
theorem parse_written (hlayout : layout.Blank) (e : Error) (depth : Nat) {gap : List Char}
    (hgap : ∀ c ∈ gap, Json.isSpace c) :
    parse (e.toJson.written layout depth ++ gap) = .ok e.reported := by
  have hread : Reads (readEnvelope (Json.depthLimit - 2 + 2)) (e.toJson.written layout depth) e.reported :=
    readEnvelope_written hlayout e
  rw [parse]
  exact Json.readWhole_append hread hgap

/-! ### The tree of a report -/

theorem plain_members (e : Error) (depth : Nat) :
    ∀ member ∈ e.members, Plain (depth + 1) member.2 := by
  have htext (name : String) (value : Option String) :
      ∀ member ∈ textMember name value, Plain (depth + 1) member.2 := by
    cases value with
    | none => exact List.forall_mem_nil _
    | some text => exact List.forall_mem_singleton.2 (.string text)
  have hcauses : ∀ member ∈ causesMember e.causes, Plain (depth + 1) member.2 := by
    rw [causesMember]
    split
    case isTrue => exact List.forall_mem_nil _
    case isFalse => exact List.forall_mem_singleton.2 (.map (fun s => .string s) e.causes)
  simp only [members, List.forall_mem_append, List.forall_mem_cons]
  exact ⟨⟨⟨hcauses, htext "hint" e.hint⟩, .string _, .string _, List.forall_mem_nil _⟩,
    htext "parameter" e.parameter⟩

theorem plain_toJson (e : Error) (depth : Nat) : Plain (depth + 3) e.toJson :=
  .object (List.forall_mem_singleton.2 (.object (e.plain_members depth)))

/-- The report of an error names its kind. -/
theorem lookup_kind (e : Error) :
    (Json.sortEntries e.members []).lookup "kind" = some (.string e.kind.name) := by
  have hother {name : String} (h : name ≠ "kind") (value : Option String) :
      (textMember name value).reverse.lookup "kind" = none := by
    cases value with
    | none => rfl
    | some text => simp [textMember, SortedMap.lookup_entry, h.symm]
  rw [Json.lookup_sortEntries, members, List.reverse_append, List.reverse_append,
    List.lookup_append, hother (by decide), Option.none_or, List.lookup_append]
  rfl

end Error

/-! ### Refusals -/

theorem Reply.refusal_of_parse {text : List Char} {e : Error} (h : Error.parse text = .ok e)
    (status : Nat) : refusal status text = e := by
  rw [refusal, h]

/-- The report that the program writes for an error means that error again, whatever the status it
comes with, and whether or not the line is ended. Nothing but the causes is lost, and an error
without a message has got the one of its kind. -/
theorem CommandLine.refusal_errorText (e : Error) (status : Nat) :
    Reply.refusal status e.toJson.compactText.toList =
        { e with message := some (e.message.getD e.kind.description), causes := [] } ∧
      Reply.refusal status (errorText false e).toList =
        { e with message := some (e.message.getD e.kind.description), causes := [] } := by
  have htext : e.toJson.compactText.toList = e.toJson.written .compact 0 := String.toList_ofList
  have hline : ∀ c ∈ ['\n'], Json.isSpace c := List.forall_mem_singleton.2 rfl
  constructor
  · have hparse := e.parse_written Json.Layout.blank_compact 0 (List.forall_mem_nil _)
    rw [List.append_nil, ← htext] at hparse
    exact Reply.refusal_of_parse hparse status
  · have hparse := e.parse_written Json.Layout.blank_compact 0 hline
    rw [← htext] at hparse
    rw [errorText, if_neg (by decide), String.toList_append]
    exact Reply.refusal_of_parse hparse status

end SeriesQuery
