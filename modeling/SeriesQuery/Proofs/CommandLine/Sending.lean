import SeriesQuery.Proofs.CommandLine.Construction
import SeriesQuery.Proofs.CommandLine.Environment
import SeriesQuery.Proofs.CommandLine.Output

/-!
# What an execution sends

An execution posts its query once or not at all. Nothing is sent when the settings name no store or
when no query can be made of the arguments, and then the run fails with what was refused. The
request is made of the address and of the query alone: the token of the merged settings shows in
nothing but the authorization, where white space at its end is lost. A token that holds a character
which cannot stand in a header keeps the request from being sent, and so does a timeout of zero. That
is found out last, so the run fails as a request does only when nothing else is refused. Behind the
query stand requests for what the replies point to, which hold neither the query nor the token.
-/

namespace SeriesQuery

/-! ### Values of headers -/

/-- The value is the text without the white space at its end. -/
def IsTrimmed (value text : List Char) : Prop :=
  (∃ gap, text = value ++ gap ∧ ∀ c ∈ gap, isBlank c) ∧ ∀ c ∈ value.getLast?, ¬isBlank c

theorem isTrimmed_trimEnd (text : List Char) : IsTrimmed (trimEnd text) text := by
  refine ⟨⟨(text.reverse.takeWhile isBlank).reverse, ?_, fun c hc => ?_⟩, fun c hc => ?_⟩
  · rw [trimEnd, ← List.reverse_append, List.takeWhile_append_dropWhile, List.reverse_reverse]
  · exact List.all_eq_true.1 List.all_takeWhile c (List.mem_reverse.1 hc)
  · have hhead := List.head?_dropWhile_not isBlank text.reverse
    rw [trimEnd, List.getLast?_reverse] at hc
    rw [hc] at hhead
    exact Bool.eq_false_iff.1 hhead

namespace Request

/-- The token is shown as it stands, and without one nothing is shown. -/
def ShowsToken : Option String → Option String → Prop
  | none, authorization => authorization = none
  | some token, authorization => ∃ value, authorization = some value ∧
      IsTrimmed value.toList ("Bearer " ++ token).toList ∧ ∀ c ∈ value.toList, isHeaderChar c

theorem showsToken_authorizationOf {userInfo : UserInfo} {token : Option String}
    (hsendable : isSendable token) (hopen : token.isSome ∨ userInfo.isEmpty) :
    ShowsToken token (authorizationOf userInfo token) := by
  cases token with
  | none =>
    rw [Option.isSome_none, Bool.false_eq_true, false_or] at hopen
    exact if_pos hopen
  | some token =>
    have htrimmed := isTrimmed_trimEnd ("Bearer " ++ token).toList
    refine ⟨bearer token, rfl, ?_, fun c hc => ?_⟩
    · rw [bearer, headerValue, String.toList_ofList]
      exact htrimmed
    · rw [bearer, headerValue, String.toList_ofList] at hc
      obtain ⟨⟨gap, htext, _⟩, _⟩ := htrimmed
      have hmem : c ∈ ("Bearer " ++ token).toList := htext ▸ List.mem_append_left gap hc
      rw [String.toList_append] at hmem
      rcases List.mem_append.1 hmem with hprefix | htoken
      · have hall : "Bearer ".toList.all isHeaderChar := rfl
        exact List.all_eq_true.1 hall c hprefix
      · exact List.all_eq_true.1 hsendable c htoken

end Request

theorem not_exists_error_of_ok {ε α : Type} (a : α) : ¬∃ e : ε, Except.ok a = .error e := by
  rintro ⟨e, h⟩
  cases h

namespace CommandLine

variable {s : Surroundings} {a : QueryArguments} {settings : Settings} {words : List Bytes}

/-! ### What is refused before anything is sent -/

/-- The settings name no store. -/
inductive StoreRefused (s : Surroundings) (settings : Settings) : Prop where
  | environment {e : Error} : Settings.ofEnvironment s.environment = .error e →
      StoreRefused s settings
  | noAddress {lower : Settings} : Settings.ofEnvironment s.environment = .ok lower →
      (lower.merge settings).url = none → StoreRefused s settings
  | address {lower : Settings} {url : String} {e : Error} :
      Settings.ofEnvironment s.environment = .ok lower → (lower.merge settings).url = some url →
      BaseUrl.parse url = .error e → StoreRefused s settings

/-- No query can be made of the arguments. -/
inductive QueryRefused (s : Surroundings) (a : QueryArguments) : Prop where
  | template : a.template = "" → QueryRefused s a
  | file {e : Error} : fileEntries s a = .error e → QueryRefused s a
  | bindSpec {spec : String} {e : Error} : spec ∈ a.binds → BindSpec.parse spec = .error e →
      QueryRefused s a
  | nameOfFile {entries : List (String × Cell)} {entry : String × Cell} :
      fileEntries s a = .ok entries → entry ∈ entries →
      ¬StandsIn entry.1.toList a.template.toList → QueryRefused s a
  | nameOfOption {spec : String} {entry : String × Cell} : spec ∈ a.binds →
      BindSpec.parse spec = .ok entry → ¬StandsIn entry.1.toList a.template.toList →
      QueryRefused s a

theorem exists_store_of_remoteOf {remote : Remote} (h : remoteOf s settings = .ok remote) :
    ∃ lower url, Settings.ofEnvironment s.environment = .ok lower ∧
      (lower.merge settings).url = some url ∧ BaseUrl.parse url = .ok remote.base ∧
      remote.token = (lower.merge settings).token ∧
      remote.timeout = (lower.merge settings).timeout := by
  obtain ⟨lower, hlower, h⟩ := exists_of_bind_eq_ok h
  rw [Remote.ofSettings] at h
  cases hurl : (lower.merge settings).url with
  | none =>
    rw [hurl] at h
    cases h
  | some url =>
    rw [hurl] at h
    obtain ⟨base, hbase, h⟩ := exists_of_bind_eq_ok h
    obtain rfl := Except.ok.inj h
    exact ⟨lower, url, hlower, hurl, hbase, rfl, rfl⟩

/-- The settings name no store exactly when a run that looks for it fails. -/
theorem storeRefused_iff : StoreRefused s settings ↔ ∃ e, remoteOf s settings = .error e := by
  cases hremote : remoteOf s settings with
  | ok remote =>
    obtain ⟨lower, url, hlower, hurl, hbase, _⟩ := exists_store_of_remoteOf hremote
    refine iff_of_false (fun h => ?_) (not_exists_error_of_ok _)
    cases h with
    | environment h => cases hlower.symm.trans h
    | noAddress h hnone =>
      obtain rfl := Except.ok.inj (hlower.symm.trans h)
      cases hurl.symm.trans hnone
    | address h hsome herror =>
      obtain rfl := Except.ok.inj (hlower.symm.trans h)
      obtain rfl := Option.some.inj (hurl.symm.trans hsome)
      cases hbase.symm.trans herror
  | error e =>
    refine iff_of_true ?_ ⟨e, rfl⟩
    rw [remoteOf] at hremote
    cases hlower : Settings.ofEnvironment s.environment with
    | error e => exact .environment hlower
    | ok lower =>
      cases hurl : (lower.merge settings).url with
      | none => exact .noAddress hlower hurl
      | some url =>
        cases hbase : BaseUrl.parse url with
        | error e => exact .address hlower hurl hbase
        | ok base =>
          simp only [hlower, ok_bind, Remote.ofSettings, hurl, hbase] at hremote
          cases hremote

/-- No query can be made exactly when a run that makes it fails. -/
theorem queryRefused_iff : QueryRefused s a ↔ ∃ e, buildQuery s a = .error e := by
  have hconstruction := construction_buildQuery s a
  cases hquery : buildQuery s a with
  | ok q =>
    rw [hquery] at hconstruction
    refine iff_of_false (fun h => ?_) (not_exists_error_of_ok _)
    cases hconstruction with
    | built htemplate hentries hstands =>
      cases h with
      | template h => exact htemplate h
      | file h => cases hentries.file.symm.trans h
      | bindSpec hspec herror =>
        obtain ⟨entry, _, hentry⟩ := exists_right_of_forall₂ hentries.options hspec
        cases hentry.symm.trans herror
      | nameOfFile h hentry hunknown =>
        obtain rfl := Except.ok.inj (hentries.file.symm.trans h)
        exact hunknown (hstands _ (List.mem_append_left _ hentry))
      | nameOfOption hspec hparsed hunknown =>
        obtain ⟨entry, hentry, h⟩ := exists_right_of_forall₂ hentries.options hspec
        obtain rfl := Except.ok.inj (h.symm.trans hparsed)
        exact hunknown (hstands _ (List.mem_append_right _ hentry))
  | error e =>
    rw [hquery] at hconstruction
    refine iff_of_true ?_ ⟨e, rfl⟩
    cases hconstruction with
    | noTemplate h => exact .template h
    | badFile _ h => exact .file h
    | badOption _ _ hsplit _ herror =>
      exact .bindSpec (hsplit ▸ List.mem_append_right _ List.mem_cons_self) herror
    | unknownName _ hentries hsplit _ hunknown =>
      rcases List.mem_append.1 (hsplit ▸ List.mem_append_right _ List.mem_cons_self) with
        hentry | hentry
      · exact .nameOfFile hentries.file hentry hunknown
      · obtain ⟨spec, hspec, hparsed⟩ := exists_left_of_forall₂ hentries.options hentry
        exact .nameOfOption hspec hparsed hunknown

/-! ### What comes of an execution -/

theorem remoteAndQuery_eq_ok {remote : Remote} {q : Query}
    (h : remoteAndQuery s a settings = .ok (remote, q)) :
    remoteOf s settings = .ok remote ∧ buildQuery s a = .ok q := by
  obtain ⟨_, hremote, h⟩ := exists_of_bind_eq_ok h
  obtain ⟨_, hquery, h⟩ := exists_of_bind_eq_ok h
  obtain ⟨rfl, rfl⟩ := Prod.mk.inj (Except.ok.inj h)
  exact ⟨hremote, hquery⟩

/-- An execution fails before it can send anything exactly when something is refused. -/
theorem refused_iff : StoreRefused s settings ∨ QueryRefused s a ↔
    ∃ e, remoteAndQuery s a settings = .error e := by
  rw [storeRefused_iff, queryRefused_iff, remoteAndQuery]
  cases remoteOf s settings with
  | error e => exact iff_of_true (.inl ⟨e, rfl⟩) ⟨e, rfl⟩
  | ok remote =>
    cases buildQuery s a with
    | error e => exact iff_of_true (.inr ⟨e, rfl⟩) ⟨e, rfl⟩
    | ok q => exact iff_of_false (by simp) (not_exists_error_of_ok _)

theorem run_of_refused (hwords : parse words = .ok (.exec a settings)) {e : Error}
    (h : remoteAndQuery s a settings = .error e) : run s words = report s [] (.error e) := by
  rw [run, hwords]
  simp only [perform, execOutcome, h]

theorem run_of_not_refused (hwords : parse words = .ok (.exec a settings)) {remote : Remote}
    {q : Query} (h : remoteAndQuery s a settings = .ok (remote, q)) :
    run s words = report s (remote.sent s.endpoint q)
      ((remote.execute s.endpoint q s.explain).map QueryResult.toJson) := by
  rw [run, hwords]
  simp only [perform, execOutcome, h]

theorem run_of_build {words : List Bytes} (hwords : parse words = .ok (.build a)) {q : Query}
    (h : buildQuery s a = .ok q) : run s words = report s [] (.ok q.payload) := by
  rw [run, hwords]
  simp only [perform, h]
  rfl

/-- The request posts the query to the store of the merged settings. -/
structure Posts (s : Surroundings) (a : QueryArguments) (settings : Settings) (request : Request)
    (merged : Settings) (base : BaseUrl) (q : Query) : Prop where
  settingsMerged : ∃ lower, Settings.ofEnvironment s.environment = .ok lower ∧
    lower.merge settings = merged
  baseParsed : ∃ url, merged.url = some url ∧ BaseUrl.parse url = .ok base
  built : buildQuery s a = .ok q
  /-- A build of the same arguments shows the same query. -/
  shown : ∀ words, parse words = .ok (.build a) → run s words = report s [] (.ok q.payload)
  method : request.method = "POST"
  path : request.path = "/ts/v1/query"
  url : request.url = base.text ++ "ts/v1/query"
  accept : request.accept = "application/json"
  contentType : request.contentType = "application/json"
  body : request.body = q.payload.compactText
  authorization : merged.token.isSome ∨ base.authority.userInfo.isEmpty →
    Request.ShowsToken merged.token request.authorization

/-- A token that cannot stand in a header. -/
def Unsendable (token : String) : Prop := ∃ c ∈ token.toList, ¬Request.isHeaderChar c

theorem isSendable_iff {token : Option String} :
    Request.isSendable token ↔ ∀ text, token = some text → ¬Unsendable text := by
  rw [Request.isSendable]
  cases token <;> simp [Unsendable]

theorem posts_of_request {remote : Remote} {q : Query} {request : Request}
    (h : remoteAndQuery s a settings = .ok (remote, q)) (hrequest : remote.request? q = some request) :
    ∃ merged, Posts s a settings request merged remote.base q := by
  obtain ⟨hremote, hquery⟩ := remoteAndQuery_eq_ok h
  obtain ⟨lower, url, hlower, hurl, hbase, htoken, -⟩ := exists_store_of_remoteOf hremote
  obtain ⟨hhindrance, hok⟩ := Remote.request?_eq_some_iff.1 hrequest
  obtain ⟨hsendable, -⟩ := Remote.hindrance?_eq_none_iff.1 hhindrance
  rw [remote.request_eq_ok] at hok
  obtain rfl := Except.ok.inj hok
  refine ⟨lower.merge settings, ⟨lower, hlower, rfl⟩, ⟨url, hurl, hbase⟩, hquery,
    fun words hwords => run_of_build hwords hquery, rfl, rfl, remote.text_queryAddress, rfl, rfl, rfl,
    fun hopen => ?_⟩
  rw [← htoken] at hopen ⊢
  exact Request.showsToken_authorizationOf hsendable hopen

/-- The store cannot be asked at all: its token cannot stand in a header, or it has no time. -/
def Hindered (settings : Settings) : Prop :=
  (∃ token, settings.token = some token ∧ Unsendable token) ∨ settings.timeout = some 0

theorem hindrance?_eq_none_iff {remote : Remote} (htoken : remote.token = settings.token)
    (htimeout : remote.timeout = settings.timeout) :
    remote.hindrance? = none ↔ ¬Hindered settings := by
  rw [Remote.hindrance?_eq_none_iff, isSendable_iff, Hindered, htoken, htimeout, not_or, not_exists]
  simp only [not_and]

/-- An execution posts its query once at most, with the first of its requests, and what it posts is the
query that a build shows. The token of the merged settings shows in nothing but the authorization of
that request. Each further request is what the reply to those before it leads to, and there are four
at most. Nothing is sent when something is refused. With a token that cannot stand in a header, or
without any time, nothing is sent either, and the run fails as a request does unless something is
refused before. Otherwise the query is sent, if there is no limit to the time. -/
theorem exec_posts_its_query (hwords : parse words = .ok (.exec a settings)) (s : Surroundings) :
    (∀ first later, (run s words).requests = first :: later →
      (∃ merged base q, Posts s a settings first merged base q) ∧ later.length ≤ 4) ∧
    Exchange.IsLinked s.endpoint (run s words).requests ∧
    (StoreRefused s settings ∨ QueryRefused s a → (run s words).requests = [] ∧
      ∃ e, remoteAndQuery s a settings = .error e ∧ run s words = report s [] (.error e)) ∧
    ∀ lower, Settings.ofEnvironment s.environment = .ok lower →
      (Hindered (lower.merge settings) → (run s words).requests = [] ∧
        (¬(StoreRefused s settings ∨ QueryRefused s a) →
          ∃ e, e.kind = .io ∧ run s words = report s [] (.error e))) ∧
      (¬Hindered (lower.merge settings) → (lower.merge settings).timeout = none →
        ¬(StoreRefused s settings ∨ QueryRefused s a) → (run s words).requests ≠ []) := by
  cases hfound : remoteAndQuery s a settings with
  | error e =>
    have hrun := run_of_refused hwords hfound
    have hrefused := refused_iff.2 ⟨e, hfound⟩
    rw [hrun, report_requests]
    refine ⟨fun _ _ h => ?_, Exchange.isLinked_nil _, fun _ => ⟨rfl, e, rfl, rfl⟩, fun _ _ =>
      ⟨fun _ => ⟨rfl, fun h => absurd hrefused h⟩, fun _ _ h => absurd hrefused h⟩⟩
    cases h
  | ok found =>
    obtain ⟨remote, q⟩ := found
    obtain ⟨lower, _, hlower, _, _, htoken, htimeout⟩ :=
      exists_store_of_remoteOf (remoteAndQuery_eq_ok hfound).1
    have hrun := run_of_not_refused hwords hfound
    have hnot : ¬(StoreRefused s settings ∨ QueryRefused s a) := fun h => by
      obtain ⟨e, he⟩ := refused_iff.1 h
      cases hfound.symm.trans he
    have hhindered := hindrance?_eq_none_iff htoken htimeout
    rw [hrun, report_requests]
    rcases remote.sent_cases s.endpoint q with ⟨fault, hfault, hsent, hexecute⟩ |
      ⟨request, later, hrequest, hsent, hlength, hlinked⟩
    · rw [hsent, hexecute]
      refine ⟨fun _ _ h => ?_, Exchange.isLinked_nil _, fun h => absurd h hnot, fun other hother =>
        ⟨fun _ => ⟨rfl, fun _ => ⟨_, rfl, rfl⟩⟩, fun hfree => ?_⟩⟩
      · cases h
      · obtain rfl := Except.ok.inj (hlower.symm.trans hother)
        rw [hhindered.2 hfree] at hfault
        cases hfault
    · rw [hsent]
      refine ⟨fun first rest h => ?_, hlinked, fun h => absurd h hnot, fun other hother =>
        ⟨fun hbad => ?_, fun _ _ _ => List.cons_ne_nil request later⟩⟩
      · obtain ⟨rfl, rfl⟩ := List.cons.inj h
        obtain ⟨merged, hposts⟩ := posts_of_request hfound hrequest
        exact ⟨⟨merged, remote.base, q, hposts⟩, hlength⟩
      · obtain rfl := Except.ok.inj (hlower.symm.trans hother)
        obtain ⟨hfree, -⟩ := Remote.request?_eq_some_iff.1 hrequest
        exact absurd hbad (hhindered.1 hfree)

/-- An execution with an address and a token. -/
def tokenWords (template token : String) : List Bytes :=
  ["exec", template, "--url", "http://h", "--token", token].map Utf8.ofString

def tokenSettings (token : String) : Settings := { url := some "http://h", token := some token }

/-- The endpoint replies to the query with an address, and to what is asked for then with a result. -/
def redirectingEndpoint : Remote.Endpoint
  | [_] =>
    some {
      status := 302
      body := []
      location := .address
        { scheme := .http, authority := ⟨.none, .domain ['g'], none⟩, path := [['a']] } "?b" }
  | _ => some { status := 200, body := Utf8.ofString "\x7b\x7d" }

/-- A token that loses the space at its end, and one with a line break. -/
theorem exec_posts_its_query_of_two_tokens :
    ∃ (s : Surroundings) (first next : Request) (merged : Settings) (base : BaseUrl) (q : Query)
      (reply : Reply),
      parse (tokenWords ":a" "t ") = .ok (.exec { template := ":a" } (tokenSettings "t ")) ∧
      (run s (tokenWords ":a" "t ")).requests = [first, next] ∧
      Posts s { template := ":a" } (tokenSettings "t ") first merged base q ∧
      s.endpoint [first] = some reply ∧ first.LeadsTo reply next ∧ next.authorization = none ∧
      parse (tokenWords ":a" "t\n") = .ok (.exec { template := ":a" } (tokenSettings "t\n")) ∧
      (run s (tokenWords ":a" "t\n")).requests = [] ∧
      ∃ e, e.kind = .io ∧ run s (tokenWords ":a" "t\n") = report s [] (.error e) := by
  let s := { bareSurroundings none with endpoint := redirectingEndpoint }
  have hspace : parse (tokenWords ":a" "t ") =
      .ok (.exec { template := ":a" } (tokenSettings "t ")) := by decide +kernel
  have hbreak : parse (tokenWords ":a" "t\n") =
      .ok (.exec { template := ":a" } (tokenSettings "t\n")) := by decide +kernel
  obtain ⟨hfirst, hlinked, -⟩ := exec_posts_its_query hspace s
  obtain ⟨-, -, -, hsettings⟩ := exec_posts_its_query hbreak s
  obtain ⟨first, next, hrequests⟩ :
      ∃ first next, (run s (tokenWords ":a" "t ")).requests = [first, next] :=
    List.length_eq_two.1 (by decide +kernel)
  obtain ⟨⟨merged, base, q, hposts⟩, -⟩ := hfirst first [next] hrequests
  obtain ⟨reply, hreply, hleads⟩ := hlinked [] first next [] hrequests
  obtain ⟨hunsent, -⟩ := hsettings {} rfl
  have hbad : Unsendable "t\n" := ⟨'\n', by decide, by decide⟩
  obtain ⟨hnone, hfails⟩ := hunsent (.inl ⟨"t\n", rfl, hbad⟩)
  have hauthorization : (run s (tokenWords ":a" "t ")).requests.map Request.authorization =
      [some "Bearer t", none] := by decide +kernel
  rw [hrequests] at hauthorization
  obtain ⟨-, hnext⟩ := List.cons.inj hauthorization
  refine ⟨s, first, next, merged, base, q, reply, hspace, hrequests, hposts, hreply, hleads,
    (List.cons.inj hnext).1, hbreak, hnone, hfails ?_⟩
  intro hrefused
  obtain ⟨e, he⟩ := refused_iff.1 hrefused
  obtain ⟨found, hfound⟩ : ∃ found,
      remoteAndQuery s { template := ":a" } (tokenSettings "t\n") = .ok found :=
    exists_eq_ok_of_isSome (by decide +kernel)
  cases he.symm.trans hfound

/-- An empty template is refused before the token is, so the run does not fail as a request does. And
where the reply to a query points to another address there is a second request, which is no post. -/
theorem exceptions_to_single_posts :
    (∃ (s : Surroundings) (words : List Bytes) (a : QueryArguments) (settings lower : Settings)
      (token : String),
      parse words = .ok (.exec a settings) ∧ Settings.ofEnvironment s.environment = .ok lower ∧
      (lower.merge settings).token = some token ∧ Unsendable token ∧
      (run s words).exitCode = ErrorKind.invalidTemplate.exitCode ∧
      ¬∃ e, e.kind = .io ∧ run s words = report s [] (.error e)) ∧
    ∃ (s : Surroundings) (words : List Bytes) (a : QueryArguments) (settings : Settings),
      parse words = .ok (.exec a settings) ∧ (run s words).requests.length = 2 ∧
      ∃ request ∈ (run s words).requests, request.method = "GET" ∧ request.path = "/a?b" := by
  let bare := bareSurroundings none
  let redirected := { bare with endpoint := redirectingEndpoint }
  have hwords : parse (tokenWords "" "a\nb") =
      .ok (.exec { template := "" } (tokenSettings "a\nb")) := by decide +kernel
  have hspace : parse (tokenWords ":a" "t ") =
      .ok (.exec { template := ":a" } (tokenSettings "t ")) := by decide +kernel
  have hcode : (run bare (tokenWords "" "a\nb")).exitCode = ErrorKind.invalidTemplate.exitCode := by
    decide +kernel
  refine ⟨⟨bare, _, _, _, {}, "a\nb", hwords, rfl, rfl, ⟨'\n', by decide, by decide⟩, hcode, ?_⟩,
    redirected, _, _, _, hspace, by decide +kernel, by decide +kernel⟩
  rintro ⟨e, hkind, hrun⟩
  rw [hrun, report, hkind] at hcode
  cases hcode

end CommandLine

end SeriesQuery
