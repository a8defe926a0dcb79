import SeriesQuery.Error.Reader
import SeriesQuery.Proofs.Json.Member

/-!
# Which texts report an error

A text reports an error when it is an object whose member `error` is an object with a kind. The
texts of the report are missing, null or strings, and each name that is known comes once. The reader
takes exactly the error that is reported, in whatever order the members stand and whatever else is
among them, and it takes nothing from a text that reports no error.
-/

namespace SeriesQuery

namespace Error

open Json (Member Value Gap Object Along Fills Gives Sole)

/-! ### Members of a report -/

/-- What a member does to the fields of a report. -/
def ReportStep (fields : ReportFields) (name : String) (m : Member) (next : ReportFields) : Prop :=
  if name = "kind" then
    fields.kind = none ∧ ∃ kind, m.IsText kind ∧ next = { fields with kind := some kind }
  else if name = "message" then
    fields.message = none ∧ ∃ message, m.IsTextOrNull message ∧
      next = { fields with message := some message }
  else if name = "hint" then
    fields.hint = none ∧ ∃ hint, m.IsTextOrNull hint ∧ next = { fields with hint := some hint }
  else if name = "parameter" then
    fields.parameter = none ∧ ∃ parameter, m.IsTextOrNull parameter ∧
      next = { fields with parameter := some parameter }
  else next = fields

theorem follows_readReportMember : Json.Follows readReportMember ReportStep := by
  intro m colon hcolon hvalue fields name next left
  have htext := Json.readsMember_readString hvalue "a string"
  have hoptional := Json.readsMember_readStringOrNull hvalue "a string"
  rw [readReportMember, ReportStep]
  split
  · exact Json.mapValue_readOnce_eq_ok_iff htext hcolon
  split
  · exact Json.mapValue_readOnce_eq_ok_iff hoptional hcolon
  split
  · exact Json.mapValue_readOnce_eq_ok_iff hoptional hcolon
  split
  · exact Json.mapValue_readOnce_eq_ok_iff hoptional hcolon
  · exact Json.skipMemberValue_eq_ok_iff hcolon hvalue

/-- Along the members of a report each field is filled for itself. -/
theorem along_reportStep_iff {start final : ReportFields} {members : List Member} :
    Along ReportStep start members final ↔
      Fills "kind" Member.IsText start.kind members final.kind ∧
      Fills "message" Member.IsTextOrNull start.message members final.message ∧
      Fills "hint" Member.IsTextOrNull start.hint members final.hint ∧
      Fills "parameter" Member.IsTextOrNull start.parameter members final.parameter := by
  induction members generalizing start with
  | nil =>
    simp only [Json.along_nil_iff, Json.fills_nil_iff]
    cases start
    cases final
    simp only [ReportFields.mk.injEq]
  | cons m members ih =>
    by_cases hkey : ∃ key, m.IsNamed key
    · obtain ⟨key, hkey⟩ := hkey
      simp only [Json.along_cons_iff hkey, Json.fills_cons_iff hkey, ih, ReportStep]
      -- A known name changes its own field, and the fields of other names stay as they are.
      by_cases hkind : key = "kind"
      · subst hkind
        simp only [if_true, String.reduceEq, if_false]
        grind
      by_cases hmessage : key = "message"
      · subst hmessage
        simp only [if_true, String.reduceEq, if_false]
        grind
      by_cases hhint : key = "hint"
      · subst hhint
        simp only [if_true, String.reduceEq, if_false]
        grind
      by_cases hparameter : key = "parameter"
      · subst hparameter
        simp only [if_true, String.reduceEq, if_false]
        grind
      · simp only [if_neg hkind, if_neg hmessage, if_neg hhint, if_neg hparameter, exists_eq_left]
    · exact iff_of_false (fun h => hkey h.exists_isNamed) (fun ⟨h, _⟩ => hkey h.exists_isNamed)

theorem takesValue_readReportMember : Json.TakesValue readReportMember := by
  intro fields next name text rest h
  have htext := Json.readsValues_readString "a string"
  have hoptional := Json.readsValues_readStringOrNull "a string"
  rw [readReportMember] at h
  split at h
  · obtain ⟨_, h, _⟩ := Json.exists_of_mapValue_eq_ok h
    exact htext.exists_of_readOnce h
  split at h
  · obtain ⟨_, h, _⟩ := Json.exists_of_mapValue_eq_ok h
    exact hoptional.exists_of_readOnce h
  split at h
  · obtain ⟨_, h, _⟩ := Json.exists_of_mapValue_eq_ok h
    exact hoptional.exists_of_readOnce h
  split at h
  · obtain ⟨_, h, _⟩ := Json.exists_of_mapValue_eq_ok h
    exact hoptional.exists_of_readOnce h
  · exact Json.exists_of_skipMemberValue h

/-! ### Reports as values -/

variable {depth : Nat} {text rest : List Char}

theorem nextItem_of_requiredItem {wanted : String} {length : Nat}
    (h : requiredItem wanted length text = .ok rest) :
    Json.nextItem (length == 0) text = .ok (.more rest) := by
  obtain ⟨next, hnext, h⟩ := exists_of_bind_eq_ok h
  cases next with
  | finished _ => cases h
  | more item =>
    obtain rfl := Except.ok.inj h
    exact hnext

theorem derives_of_readReportItems {fields : ReportFields}
    (h : readReportItems text = .ok (fields, rest)) : Json.Derives (.items true) text rest := by
  have htext := Json.readsValues_readString "a string"
  have hoptional := Json.readsValues_readStringOrNull "a string"
  obtain ⟨_, hfirst, h⟩ := exists_of_bind_eq_ok h
  obtain ⟨⟨kind, _⟩, hkind, h⟩ := exists_of_bind_eq_ok h
  obtain ⟨_, hsecond, h⟩ := exists_of_bind_eq_ok h
  obtain ⟨⟨message, _⟩, hmessage, h⟩ := exists_of_bind_eq_ok h
  obtain ⟨_, hthird, h⟩ := exists_of_bind_eq_ok h
  obtain ⟨⟨hint, _⟩, hhint, h⟩ := exists_of_bind_eq_ok h
  obtain ⟨_, hfourth, h⟩ := exists_of_bind_eq_ok h
  obtain ⟨⟨parameter, _⟩, hparameter, h⟩ := exists_of_bind_eq_ok h
  obtain ⟨_, hend, h⟩ := exists_of_bind_eq_ok h
  obtain ⟨_, rfl⟩ := Prod.mk.inj (Except.ok.inj h)
  have hlast := Json.derives_of_nextItem (nextItem_of_requiredItem hfourth) (hoptional hparameter)
    (Json.derives_of_endArray hend)
  have hmiddle := Json.derives_of_nextItem (nextItem_of_requiredItem hthird) (hoptional hhint) hlast
  have hmore :=
    Json.derives_of_nextItem (nextItem_of_requiredItem hsecond) (hoptional hmessage) hmiddle
  exact Json.derives_of_nextItem (nextItem_of_requiredItem hfirst) (htext hkind) hmore

/-- A report is a value, also where it is an array. -/
theorem readsValues_readReport (depth : Nat) : Json.ReadsValues (readReport depth) := by
  intro text rest e h
  obtain ⟨⟨fields, behind⟩, hfields, h⟩ := exists_of_bind_eq_ok h
  obtain ⟨_, rfl⟩ := Json.eq_ok_of_lift h
  exact Json.value_of_readFields (fun _ => takesValue_readReportMember)
    (fun hitems => derives_of_readReportItems hitems) hfields

/-- An object is a report if its members fill the fields of one. -/
theorem readReport_object_iff {members : List Member} (h : Object text members rest) {e : Error}
    {left : List Char} :
    readReport (depth + 1) text = .ok (e, left) ↔
      left = rest ∧ ∃ fields, Along ReportStep {} members fields ∧ fields.finish = .ok e := by
  have hread (fields : ReportFields) (left : List Char) :
      Json.readFields "struct RemoteError" (fun _ => readReportMember) (fun _ => readReportItems) {}
          (depth + 1) text = .ok (fields, left) ↔
        left = rest ∧ Along ReportStep {} members fields :=
    Json.readFields_object_iff follows_readReportMember h
  rw [readReport]
  constructor
  · intro h
    obtain ⟨⟨fields, behind⟩, hfields, h⟩ := exists_of_bind_eq_ok h
    obtain ⟨hfinish, rfl⟩ := Json.eq_ok_of_lift h
    obtain ⟨rfl, halong⟩ := (hread fields behind).1 hfields
    exact ⟨rfl, fields, halong, hfinish⟩
  · rintro ⟨rfl, fields, halong, hfinish⟩
    simp only [(hread fields left).2 ⟨rfl, halong⟩, ok_bind, hfinish]
    rfl

/-! ### Texts that hold a report -/

/-- The member holds a report of the error. -/
def Holds (depth : Nat) (m : Member) (e : Error) : Prop :=
  readReport depth m.value = .ok (e, m.rest)

def EnvelopeStep (depth : Nat) (report : Option Error) (name : String) (m : Member)
    (next : Option Error) : Prop :=
  if name = "error" then report = none ∧ ∃ e, Holds depth m e ∧ next = some e else next = report

theorem follows_readEnvelopeMember (depth : Nat) :
    Json.Follows (readEnvelopeMember depth) (EnvelopeStep depth) := by
  intro m colon hcolon hvalue report name next left
  have hreport : Json.ReadsMember (readReport depth) (Holds depth) m := by
    intro e left
    constructor
    · intro h
      obtain rfl := hvalue.rest_eq (readsValues_readReport depth h)
      exact ⟨rfl, h⟩
    · rintro ⟨rfl, h⟩
      exact h
  rw [readEnvelopeMember, EnvelopeStep]
  split
  · exact Json.readOnce_eq_ok_iff hreport hcolon
  · exact Json.skipMemberValue_eq_ok_iff hcolon hvalue

theorem along_envelopeStep_iff {start final : Option Error} {members : List Member} :
    Along (EnvelopeStep depth) start members final ↔
      Fills "error" (Holds depth) start members final := by
  induction members generalizing start with
  | nil => rw [Json.along_nil_iff, Json.fills_nil_iff]
  | cons m members ih =>
    by_cases hkey : ∃ key, m.IsNamed key
    · obtain ⟨key, hkey⟩ := hkey
      simp only [Json.along_cons_iff hkey, Json.fills_cons_iff hkey, ih, EnvelopeStep]
      by_cases herror : key = "error"
      · simp only [if_pos herror]
        grind
      · simp only [if_neg herror, exists_eq_left]
    · exact iff_of_false (fun h => hkey h.exists_isNamed) (fun h => hkey h.exists_isNamed)

theorem takesValue_readEnvelopeMember (depth : Nat) :
    Json.TakesValue (readEnvelopeMember depth) := by
  intro report next name text rest h
  rw [readEnvelopeMember] at h
  split at h
  · exact (readsValues_readReport depth).exists_of_readOnce h
  · exact Json.exists_of_skipMemberValue h

theorem derives_of_readEnvelopeItems {report : Option Error}
    (h : readEnvelopeItems depth text = .ok (report, rest)) :
    Json.Derives (.items true) text rest := by
  obtain ⟨_, hfirst, h⟩ := exists_of_bind_eq_ok h
  obtain ⟨⟨e, _⟩, hreport, h⟩ := exists_of_bind_eq_ok h
  obtain ⟨_, hend, h⟩ := exists_of_bind_eq_ok h
  obtain ⟨_, rfl⟩ := Prod.mk.inj (Except.ok.inj h)
  exact Json.derives_of_nextItem (nextItem_of_requiredItem hfirst)
    (readsValues_readReport depth hreport) (Json.derives_of_endArray hend)

theorem readsValues_readEnvelope (depth : Nat) : Json.ReadsValues (readEnvelope depth) := by
  intro text rest e h
  obtain ⟨⟨report, behind⟩, hreport, h⟩ := exists_of_bind_eq_ok h
  cases report with
  | none => cases h
  | some found =>
    obtain ⟨_, rfl⟩ := Prod.mk.inj (Except.ok.inj h)
    exact Json.value_of_readFields takesValue_readEnvelopeMember
      (fun hitems => derives_of_readEnvelopeItems hitems) hreport

/-- Only a JSON text reports an error. -/
theorem isText_of_parse {e : Error} (h : parse text = .ok e) : Json.IsText text := by
  obtain ⟨rest, hread, hrest⟩ := Json.readWhole_eq_ok_iff.1 h
  exact ⟨rest, readsValues_readEnvelope _ hread, hrest⟩

theorem readEnvelope_object_iff {members : List Member} (h : Object text members rest) {e : Error}
    {left : List Char} :
    readEnvelope (depth + 1) text = .ok (e, left) ↔
      left = rest ∧ Fills "error" (Holds depth) none members (some e) := by
  have hread (report : Option Error) (left : List Char) :
      Json.readFields "struct ErrorEnvelope" readEnvelopeMember readEnvelopeItems none
          (depth + 1) text = .ok (report, left) ↔
        left = rest ∧ Along (EnvelopeStep depth) none members report :=
    Json.readFields_object_iff (follows_readEnvelopeMember depth) h
  rw [readEnvelope]
  constructor
  · intro h
    obtain ⟨⟨report, behind⟩, hreport, h⟩ := exists_of_bind_eq_ok h
    obtain ⟨rfl, halong⟩ := (hread report behind).1 hreport
    cases report with
    | none => cases h
    | some found =>
      obtain ⟨rfl, rfl⟩ := Prod.mk.inj (Except.ok.inj h)
      exact ⟨rfl, along_envelopeStep_iff.1 halong⟩
  · rintro ⟨rfl, hfills⟩
    simp only [(hread (some e) left).2 ⟨rfl, along_envelopeStep_iff.2 hfills⟩, ok_bind]
    rfl

/-- What an object reports is held by its only member `error`. -/
theorem parse_object_iff {members : List Member} (h : Object text members rest)
    (hrest : ∀ c ∈ rest, Json.isSpace c) {e : Error} :
    parse text = .ok e ↔ (∀ m ∈ members, ∃ key, m.IsNamed key) ∧
      ∃ m, Sole members "error" m ∧ Holds Json.memberDepth m e := by
  have hgives : Fills "error" (Holds Json.memberDepth) none members (some e) ↔
      (∀ m ∈ members, ∃ key, m.IsNamed key) ∧
        ∃ m, Sole members "error" m ∧ Holds Json.memberDepth m e :=
    Json.fills_none_iff
  rw [← hgives, parse, Json.depthLimit_eq, Json.readWhole_eq_ok_iff]
  simp only [readEnvelope_object_iff h]
  constructor
  · rintro ⟨left, ⟨-, hfills⟩, -⟩
    exact hfills
  · intro hfills
    exact ⟨rest, ⟨rfl, hfills⟩, hrest⟩

/-! ### What is reported and what is not -/

/-- The text under a name: its member is missing, null or a string. -/
inductive GivesText (name : String) (members : List Member) : Option String → Prop where
  | missing : (∀ m ∈ members, ¬m.IsNamed name) → GivesText name members none
  | null {m : Member} : Sole members name m → Json.IsNull m.value m.rest →
      GivesText name members none
  | text {m : Member} {s : String} : Sole members name m → m.IsText s →
      GivesText name members (some s)

/-- The members of a report, in any order and among others. -/
structure Reports (members : List Member) (kind : String) (message hint parameter : Option String) :
    Prop where
  named : ∀ m ∈ members, ∃ key, m.IsNamed key
  kind : ∃ m, Sole members "kind" m ∧ m.IsText kind
  message : GivesText "message" members message
  hint : GivesText "hint" members hint
  parameter : GivesText "parameter" members parameter

/-- The text is an object whose only member `error` is a report. -/
inductive ReportsError (text : List Char) (kind : String)
    (message hint parameter : Option String) : Prop where
  | object {members fields : List Member} {m : Member} {rest : List Char} :
      Object text members rest → (∀ c ∈ rest, Json.isSpace c) →
      (∀ m ∈ members, ∃ key, m.IsNamed key) → Sole members "error" m →
      Object m.value fields m.rest → Reports fields kind message hint parameter →
      ReportsError text kind message hint parameter

/-- The member is neither an array nor an object. -/
def IsScalar (m : Member) : Prop :=
  ∀ bracket ∈ ['[', '{'], ∀ body, ¬Gap m.value (bracket :: body)

/-- The members of an object that is no report. A key is no text if it has a surrogate without a
partner. -/
inductive LacksReport (members : List Member) : Prop where
  | noKind : (∀ m ∈ members, ¬m.IsNamed "kind") → LacksReport members
  | badKind {m : Member} : m ∈ members → m.IsNamed "kind" → (∀ s, ¬m.IsText s) →
      LacksReport members
  | badText {m : Member} {name : String} : name ∈ ["message", "hint", "parameter"] →
      m ∈ members → m.IsNamed name → ¬Json.IsNull m.value m.rest → (∀ s, ¬m.IsText s) →
      LacksReport members
  | badKey {m : Member} : m ∈ members → (∀ key, ¬m.IsNamed key) → LacksReport members

/-- The text is no JSON, or an object that does not hold a report. -/
inductive LacksError (text : List Char) : Prop where
  | empty : text = [] → LacksError text
  | notJson : ¬Json.IsText text → LacksError text
  | missing {members : List Member} {rest : List Char} : Object text members rest →
      (∀ c ∈ rest, Json.isSpace c) → (∀ m ∈ members, ¬m.IsNamed "error") → LacksError text
  | scalar {members : List Member} {m : Member} {rest : List Char} : Object text members rest →
      (∀ c ∈ rest, Json.isSpace c) → m ∈ members → m.IsNamed "error" → IsScalar m →
      LacksError text
  | object {members fields : List Member} {m : Member} {rest : List Char} :
      Object text members rest → (∀ c ∈ rest, Json.isSpace c) → m ∈ members →
      m.IsNamed "error" → Object m.value fields m.rest → LacksReport fields → LacksError text
  | badKey {members : List Member} {m : Member} {rest : List Char} : Object text members rest →
      (∀ c ∈ rest, Json.isSpace c) → m ∈ members → (∀ key, ¬m.IsNamed key) → LacksError text

variable {members : List Member}

theorem GivesText.exists_gives {name : String} {o : Option String}
    (h : GivesText name members o) :
    ∃ given, Gives name Member.IsTextOrNull members given ∧ given.getD none = o := by
  cases h with
  | missing hnone => exact ⟨none, hnone, rfl⟩
  | null hsole hnull => exact ⟨some none, ⟨_, hsole, .inl ⟨rfl, hnull⟩⟩, rfl⟩
  | text hsole htext => exact ⟨some (some _), ⟨_, hsole, .inr ⟨_, rfl, htext⟩⟩, rfl⟩

theorem holds_of_reports {m : Member} {kind : String} {message hint parameter : Option String}
    (hobject : Object m.value members m.rest)
    (h : Reports members kind message hint parameter) :
    Holds (depth + 1) m
      { kind := (ErrorKind.ofName? kind).getD .internal, message, hint, parameter } := by
  obtain ⟨givenMessage, hmessage, rfl⟩ := h.message.exists_gives
  obtain ⟨givenHint, hhint, rfl⟩ := h.hint.exists_gives
  obtain ⟨givenParameter, hparameter, rfl⟩ := h.parameter.exists_gives
  have halong : Along ReportStep {} members
      ⟨some kind, givenMessage, givenHint, givenParameter⟩ :=
    along_reportStep_iff.2 ⟨Json.fills_none_iff.2 ⟨h.named, h.kind⟩,
      Json.fills_none_iff.2 ⟨h.named, hmessage⟩, Json.fills_none_iff.2 ⟨h.named, hhint⟩,
      Json.fills_none_iff.2 ⟨h.named, hparameter⟩⟩
  exact (readReport_object_iff hobject).2 ⟨rfl, _, halong, rfl⟩

/-- What a text reports is what is read from it. -/
theorem parse_of_reportsError {kind : String} {message hint parameter : Option String}
    (h : ReportsError text kind message hint parameter) :
    parse text = .ok
      { kind := (ErrorKind.ofName? kind).getD .internal, message, hint, parameter } := by
  obtain ⟨hobject, hrest, hnamed, hsole, hinner, hreports⟩ := h
  exact (parse_object_iff hobject hrest).2 ⟨hnamed, _, hsole, holds_of_reports hinner hreports⟩

theorem not_holds_of_lacksReport {m : Member} (hobject : Object m.value members m.rest)
    (h : LacksReport members) (e : Error) : ¬Holds (depth + 1) m e := by
  intro hholds
  obtain ⟨_, fields, halong, hfinish⟩ := (readReport_object_iff hobject).1 hholds
  obtain ⟨hkind, hmessage, hhint, hparameter⟩ := along_reportStep_iff.1 halong
  cases h with
  | noKind hnone =>
    have hgives := (Json.fills_none_iff.1 hkind).2
    cases hfound : fields.kind with
    | none =>
      rw [ReportFields.finish, hfound] at hfinish
      cases hfinish
    | some kind =>
      rw [hfound] at hgives
      obtain ⟨found, hsole, _⟩ := hgives
      exact hnone found hsole.mem hsole.isNamed
  | badKind hmem hname htext =>
    obtain ⟨s, hs⟩ := hkind.exists_holds hmem hname
    exact htext s hs
  | badText hknown hmem hname hnull htext =>
    obtain ⟨o, ho⟩ : ∃ o, Member.IsTextOrNull _ o := by
      simp only [List.mem_cons, List.not_mem_nil, or_false] at hknown
      rcases hknown with rfl | rfl | rfl
      · exact hmessage.exists_holds hmem hname
      · exact hhint.exists_holds hmem hname
      · exact hparameter.exists_holds hmem hname
    rcases ho with ⟨_, ho⟩ | ⟨s, _, ho⟩
    · exact hnull ho
    · exact htext s ho
  | badKey hmem hkey =>
    obtain ⟨key, hname⟩ := (Json.fills_none_iff.1 hkind).1 _ hmem
    exact hkey key hname

theorem not_holds_of_isScalar {m : Member} (h : IsScalar m) (e : Error) : ¬Holds depth m e := by
  intro hholds
  obtain ⟨⟨fields, behind⟩, hfields, _⟩ := exists_of_bind_eq_ok hholds
  rw [Json.readFields] at hfields
  split at hfields
  · cases hfields
  · rename_i heq
    exact h '[' (by decide) _ ((Json.gap_cons_iff (by decide)).2 heq)
  · rename_i heq
    exact h '{' (by decide) _ ((Json.gap_cons_iff (by decide)).2 heq)
  · cases hfields

/-- Nothing is read from a text that reports no error. -/
theorem parse_ne_ok_of_lacksError (h : LacksError text) (e : Error) : parse text ≠ .ok e := by
  intro hparse
  cases h with
  | empty hempty =>
    rw [hempty] at hparse
    cases hparse
  | notJson hnot => exact hnot (isText_of_parse hparse)
  | missing hobject hrest hnone =>
    obtain ⟨_, m, hsole, _⟩ := (parse_object_iff hobject hrest).1 hparse
    exact hnone m hsole.mem hsole.isNamed
  | scalar hobject hrest hmem hname hscalar =>
    obtain ⟨_, m, hsole, hholds⟩ := (parse_object_iff hobject hrest).1 hparse
    obtain rfl := hsole.eq_of_mem hmem hname
    exact not_holds_of_isScalar hscalar e hholds
  | object hobject hrest hmem hname hinner hlacks =>
    obtain ⟨_, m, hsole, hholds⟩ := (parse_object_iff hobject hrest).1 hparse
    obtain rfl := hsole.eq_of_mem hmem hname
    exact not_holds_of_lacksReport hinner hlacks e hholds
  | badKey hobject hrest hmem hkey =>
    obtain ⟨hnamed, _⟩ := (parse_object_iff hobject hrest).1 hparse
    obtain ⟨key, hname⟩ := hnamed _ hmem
    exact hkey key hname

end Error

end SeriesQuery
