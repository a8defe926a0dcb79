import SeriesQuery.Proofs.Url.Address
import SeriesQuery.Remote

/-!
# Base URLs and the addresses of requests

A base URL is what an address of the web without a path says apart from its query and its fragment.
Its text is the address of the root, it is the same base URL again, and the address of every request
stands directly below it.
-/

namespace SeriesQuery

namespace BaseUrl

open Url

/-! ### Which texts are base URLs -/

/-- Why a text is no base URL. -/
inductive IsRefused (raw : String) : Prop where
  | notAbsolute {flaw : Flaw} (h : Address.parse raw.toList = .error flaw)
  | scheme {address : Address} (h : Address.parse raw.toList = .ok address)
      (hscheme : address.schemeName ≠ ['h', 't', 't', 'p'] ∧
        address.schemeName ≠ ['h', 't', 't', 'p', 's'])
  | path {address : WebAddress} (h : Address.parse raw.toList = .ok (.web address))
      (hpath : address.path ≠ Path.root)

variable {raw : String} {u : BaseUrl} {e : Error}

theorem parse_cases (raw : String) :
    (∃ flaw, Address.parse raw.toList = .error flaw ∧ parse raw = .error (invalid flaw)) ∨
      (∃ scheme, Address.parse raw.toList = .ok (.other scheme) ∧ parse raw = .error wrongScheme) ∨
      ∃ address, Address.parse raw.toList = .ok (.web address) ∧
        (address.path ≠ Path.root ∧ parse raw = .error hasPath ∨
          ∃ u, address = root u ∧ parse raw = .ok u) := by
  cases haddress : Address.parse raw.toList with
  | error flaw => exact .inl ⟨flaw, rfl, by rw [parse, haddress]⟩
  | ok address =>
    have hparse : parse raw = ofAddress address := by rw [parse, haddress]
    cases address with
    | other scheme => exact .inr (.inl ⟨scheme, rfl, hparse⟩)
    | web address =>
      refine .inr (.inr ⟨address, rfl, ?_⟩)
      by_cases hpath : address.path = Path.root
      · refine .inr ⟨⟨address.scheme, address.authority⟩, ?_, hparse.trans (if_pos hpath)⟩
        rw [root, ← hpath]
      · exact .inl ⟨hpath, hparse.trans (if_neg hpath)⟩

theorem parse_eq_ok_iff : parse raw = .ok u ↔ Address.parse raw.toList = .ok (.web u.root) := by
  rcases parse_cases raw with ⟨flaw, h, hparse⟩ | ⟨scheme, h, hparse⟩ | ⟨address, h, hcases⟩
  · simp [h, hparse]
  · simp [h, hparse]
  rcases hcases with ⟨hpath, hparse⟩ | ⟨found, rfl, hparse⟩
  · rw [h, hparse]
    constructor
    · intro hok
      cases hok
    · intro hok
      obtain rfl := Address.web.inj (Except.ok.inj hok)
      exact absurd rfl hpath
  · rw [h, hparse]
    cases u
    cases found
    simp [root]

theorem kind_of_parse_eq_error (h : parse raw = .error e) : e.kind = .usage := by
  rcases parse_cases raw with ⟨_, -, hparse⟩ | ⟨_, -, hparse⟩ | ⟨_, -, ⟨-, hparse⟩ | ⟨_, -, hparse⟩⟩
  all_goals
    rw [hparse] at h
    cases h
  all_goals rfl

theorem exists_error_iff : (∃ e, parse raw = .error e) ↔ IsRefused raw := by
  constructor
  · rintro ⟨e, herror⟩
    rcases parse_cases raw with ⟨_, h, -⟩ | ⟨scheme, h, -⟩ | ⟨_, h, ⟨hpath, -⟩ | ⟨u, -, hparse⟩⟩
    · exact .notAbsolute h
    · have hname := Address.ofName?_of_parse_other h
      refine .scheme h ⟨?_, ?_⟩
      · rintro rfl
        cases hname
      · rintro rfl
        cases hname
    · exact .path h hpath
    · rw [herror] at hparse
      cases hparse
  · intro hrefused
    cases hparse : parse raw with
    | error e => exact ⟨e, rfl⟩
    | ok u =>
      have hroot := parse_eq_ok_iff.1 hparse
      cases hrefused with
      | notAbsolute h =>
        rw [hroot] at h
        cases h
      | scheme h hscheme =>
        rw [hroot] at h
        obtain rfl := Except.ok.inj h
        obtain ⟨scheme, authority⟩ := u
        cases scheme with
        | http => exact absurd rfl hscheme.1
        | https => exact absurd rfl hscheme.2
      | path h hpath =>
        rw [hroot] at h
        obtain rfl := Address.web.inj (Except.ok.inj h)
        exact absurd rfl hpath

/-! ### The text of a base URL -/

theorem text_root (u : BaseUrl) :
    u.root.text = u.scheme.name ++ ':' :: '/' :: '/' :: (u.authority.text ++ ['/']) :=
  rfl

theorem text_append (u : BaseUrl) (path : String) :
    (u.text ++ path).toList =
      u.scheme.name ++ ':' :: '/' :: '/' :: (u.authority.text ++ '/' :: path.toList) := by
  simp [text, text_root]

/-- What is appended to the text of a base URL is its path. -/
theorem parse_text_append (h : parse raw = .ok u) (hlimit : u.authority.host.FitsLimit)
    {path : String} (hpath : ∀ c ∈ path.toList, 0x20 < c.toNat) :
    Address.parse (u.text ++ path).toList =
      .ok (.web { u.root with path := Path.parse ('/' :: path.toList) }) := by
  have hwritten := Address.isWritten_of_parse (parse_eq_ok_iff.1 h)
  rw [text_append]
  exact Address.parse_text hwritten hlimit hpath

theorem parse_text (h : parse raw = .ok u) (hlimit : u.authority.host.FitsLimit) :
    parse u.text = .ok u := by
  have hpath : ∀ c ∈ "".toList, 0x20 < c.toNat := by simp
  have hread := parse_text_append h hlimit hpath
  rw [String.append_empty] at hread
  exact parse_eq_ok_iff.2 hread

/-- Between the slashes and the path of a base URL stands no mark of a path, a query or a
fragment. -/
theorem isEnd_of_mem_text (h : parse raw = .ok u) :
    ∀ c ∈ u.authority.text, Authority.isEnd true c = false := by
  have hwritten := Address.isWritten_of_parse (parse_eq_ok_iff.1 h)
  exact fun c hc => (Authority.of_mem_text hwritten.authority hc).2

end BaseUrl

namespace Remote

/-- The address that queries are posted to. -/
def queryAddress (r : Remote) : Url.WebAddress :=
  { r.base.root with path := ["ts".toList, "v1".toList, "query".toList] }

/-- The address of a base URL has a path that can be taken apart, so there always is a request. -/
theorem request_eq_ok (r : Remote) (q : Query) :
    r.request q = .ok (Request.post r.queryAddress r.token q.payload.compactText) := by
  have hpath : Request.querySegments.foldl Url.Path.push Url.Path.root =
      ["ts".toList, "v1".toList, "query".toList] := by decide
  simp only [request, BaseUrl.below, hpath, ok_bind]
  rfl

theorem text_queryAddress (r : Remote) :
    String.ofList r.queryAddress.text = r.base.text ++ "ts/v1/query" := by
  apply String.toList_injective
  rw [BaseUrl.text_append, String.toList_ofList]
  rfl

theorem request?_eq_some_iff {r : Remote} {q : Query} {request : Request} :
    r.request? q = some request ↔ r.hindrance? = none ∧ r.request q = .ok request := by
  rw [request?, request_eq_ok]
  cases r.hindrance? <;> simp [Except.toOption]

theorem url_of_request? {r : Remote} {q : Query} {request : Request}
    (h : r.request? q = some request) : request.url = r.base.text ++ "ts/v1/query" := by
  obtain ⟨-, hrequest⟩ := request?_eq_some_iff.1 h
  rw [request_eq_ok] at hrequest
  obtain rfl := Except.ok.inj hrequest
  exact r.text_queryAddress

end Remote

open Url

/-- A text is a base URL if and only if it is an absolute address of the web whose path is a single
slash. What is kept of it is the scheme and the authority. The text of the base URL is the address
of the root and denotes the same base URL, and all requests go to one address below. That a
serialised address is read back as an equal one needs no more than that none of its labels in
Punycode is longer than what is read. -/
theorem BaseUrl.parse_normalises (raw : String) :
    (∀ e, parse raw = .error e → e.kind = .usage) ∧
    ((∃ e, parse raw = .error e) ↔ IsRefused raw) ∧
    ∀ u, parse raw = .ok u →
      (∃ address, Address.parse raw.toList = .ok (.web address) ∧ u.scheme = address.scheme ∧
        u.authority.userInfo = address.authority.userInfo ∧
        u.authority.host = address.authority.host ∧ u.authority.port = address.authority.port) ∧
      (∃ place, u.text.toList = u.scheme.name ++ ':' :: '/' :: '/' :: (place ++ ['/']) ∧
        ∀ c ∈ place, c ≠ '/' ∧ c ≠ '\\' ∧ c ≠ '?' ∧ c ≠ '#') ∧
      (u.authority.host.FitsLimit → parse u.text = .ok u) ∧
      ∀ (r : Remote) (q : Query) (request : Request), r.base = u → r.request? q = some request →
        request.url = u.text ++ "ts/v1/query" ∧
        (u.authority.host.FitsLimit →
          Address.parse request.url.toList = .ok (.web {
            scheme := u.scheme
            authority := u.authority
            path := ["ts".toList, "v1".toList, "query".toList] })) := by
  refine ⟨fun e => kind_of_parse_eq_error, exists_error_iff, fun u h => ⟨?_, ?_, ?_, ?_⟩⟩
  · exact ⟨u.root, parse_eq_ok_iff.1 h, rfl, rfl, rfl, rfl⟩
  · refine ⟨u.authority.text, ?_, fun c hc => ?_⟩
    · rw [text, String.toList_ofList, text_root]
    · have hend := isEnd_of_mem_text h c hc
      simpa [Authority.isEnd, Authority.isSlash, and_assoc] using hend
  · exact parse_text h
  · rintro r q request rfl hrequest
    have hurl := Remote.url_of_request? hrequest
    refine ⟨hurl, fun hlimit => ?_⟩
    have hpath : ∀ c ∈ "ts/v1/query".toList, 0x20 < c.toNat := Address.lt_of_all (by decide)
    have hsegments : Path.parse ('/' :: "ts/v1/query".toList) =
        ["ts".toList, "v1".toList, "query".toList] := by decide
    rw [hurl, parse_text_append h hlimit hpath, hsegments]
    rfl

/-- An address with a host in upper case, a port with a zero in front, dots in its path, and slashes
in its query and its fragment. -/
theorem BaseUrl.parse_normalises_of_spelling :
    ∃ u, parse " HTTP://me@EXAMPLE.org:08080/a/../?b=/c#/d " = .ok u ∧
      u.text = "http://me@example.org:8080/" ∧ parse u.text = .ok u := by
  let u : BaseUrl :=
    { scheme := .http
      authority := {
        userInfo := ⟨"me".toList, []⟩
        host := .domain "example.org".toList
        port := some 8080 } }
  have hparse : parse " HTTP://me@EXAMPLE.org:08080/a/../?b=/c#/d " = .ok u := by
    apply parse_eq_ok_iff.2
    rw [String.toList_ofList]
    rfl
  obtain ⟨-, -, hok⟩ := parse_normalises " HTTP://me@EXAMPLE.org:08080/a/../?b=/c#/d "
  obtain ⟨-, -, hread, -⟩ := hok u hparse
  exact ⟨u, hparse, rfl, hread (by decide)⟩

end SeriesQuery
