import SeriesQuery.Proofs.Remote.BaseUrl

/-!
# What an exchange sends

A query is posted, and then the replies can lead on to other addresses. Every request behind the
first is what the reply to those before it leads to: it asks for another address, without a text and
without the token of the first. No reply is followed when too many have been, so the requests of an
exchange are few. The reply that an exchange brings is the one to all that was sent.
-/

namespace SeriesQuery

/-- The reply leads from one request to the next. A posted text is given up on the way. -/
structure Request.LeadsTo (previous : Request) (reply : Reply) (next : Request) : Prop where
  status : reply.status ∈ [301, 302, 303] ∨ reply.status ∈ [307, 308] ∧ previous.method = "GET"
  target : ∃ target query, reply.location = .address target query ∧
    next.url = String.ofList target.text ++ query ∧
    next.path = String.ofList (Url.Path.text target.path) ++ query ∧
    next.authorization = authorizationOf target.authority.userInfo none
  method : next.method = "GET"
  body : next.body = ""
  accept : next.accept = previous.accept
  contentType : next.contentType = previous.contentType

theorem Request.leadsTo_of_turn {request next : Request} {reply : Reply}
    (h : request.turn reply = .go next) : request.LeadsTo reply next := by
  rw [turn] at h
  split at h
  · cases h
  · cases h
  rename_i target query hlocation
  split at h
  · rename_i hstatus
    obtain rfl := Turn.go.inj h
    exact ⟨.inl (by simpa using hstatus), ⟨target, query, hlocation, rfl, rfl, rfl⟩,
      rfl, rfl, rfl, rfl⟩
  split at h
  · rename_i hstatus
    obtain rfl := Turn.go.inj h
    exact ⟨.inr (by simpa using hstatus), ⟨target, query, hlocation, rfl, rfl, rfl⟩,
      rfl, rfl, rfl, rfl⟩
  · cases h

/-- The reply is not followed, as one of so many. -/
def Reply.IsFinal (r : Reply) (count : Nat) : Prop :=
  r.isRedirection = false ∨ r.location = .absent ∧ count ≤ Exchange.redirectLimit

namespace Exchange

variable {endpoint : Remote.Endpoint} {left : Nat} {sent : List Request} {request next : Request}
  {reply : Reply}

/-! ### All that is sent -/

/-- A reply that points nowhere, or has another kind of status, ends the exchange. -/
theorem goOn_of_stays (hreply : endpoint (sent ++ [request]) = some reply)
    (hstays : reply.isRedirection = false ∨ reply.location = .absent ∧ 0 < left) :
    goOn endpoint left sent request =
      { requests := sent ++ [request], outcome := .ok reply } := by
  rw [goOn.eq_def]
  simp only [hreply]
  rcases hstays with hstatus | ⟨habsent, hpos⟩
  · rw [hstatus, if_neg Bool.false_ne_true]
  · obtain ⟨fewer, rfl⟩ := Nat.exists_eq_add_one_of_ne_zero (Nat.ne_of_gt hpos)
    simp only [Request.turn, habsent, ite_self]

/-- Each request behind the first is what the reply to those before it leads to. -/
def IsLinked (endpoint : Remote.Endpoint) (requests : List Request) : Prop :=
  ∀ earlier previous next rest, requests = earlier ++ previous :: next :: rest →
    ∃ reply, endpoint (earlier ++ [previous]) = some reply ∧ previous.LeadsTo reply next

theorem isLinked_nil (endpoint : Remote.Endpoint) : IsLinked endpoint [] := by
  intro earlier previous next rest h
  simp at h

theorem isLinked_singleton (endpoint : Remote.Endpoint) (request : Request) :
    IsLinked endpoint [request] := by
  intro earlier previous next rest h
  have hlength := congrArg List.length h
  simp at hlength
  omega

theorem IsLinked.snoc (h : IsLinked endpoint (sent ++ [request]))
    (hreply : endpoint (sent ++ [request]) = some reply) (hleads : request.LeadsTo reply next) :
    IsLinked endpoint (sent ++ [request] ++ [next]) := by
  intro earlier previous following rest hsplit
  rcases List.eq_nil_or_concat rest with rfl | ⟨rest, last, rfl⟩
  · have hcut : sent ++ [request] ++ [next] = earlier ++ [previous] ++ [following] := by
      simpa using hsplit
    obtain ⟨hfront, hlast⟩ := List.append_inj' hcut rfl
    obtain ⟨rfl, hprevious⟩ := List.append_inj' hfront rfl
    obtain rfl := List.singleton_inj.1 hlast
    obtain rfl := List.singleton_inj.1 hprevious
    exact ⟨reply, hreply, hleads⟩
  · have hcut :
        sent ++ [request] ++ [next] = earlier ++ previous :: following :: rest ++ [last] := by
      simpa using hsplit
    exact h earlier previous following rest (List.append_inj' hcut rfl).1

theorem isLinked_goOn (h : IsLinked endpoint (sent ++ [request])) :
    IsLinked endpoint (goOn endpoint left sent request).requests := by
  fun_induction goOn endpoint left sent request
  case case5 hreply _ _ _ hturn ih => exact ih (h.snoc hreply (Request.leadsTo_of_turn hturn))
  all_goals exact h

theorem prefix_goOn : sent ++ [request] <+: (goOn endpoint left sent request).requests := by
  fun_induction goOn endpoint left sent request
  case case5 ih => exact (List.prefix_append _ _).trans ih
  all_goals exact List.prefix_rfl

theorem length_goOn_le :
    (goOn endpoint left sent request).requests.length ≤ sent.length + left + 1 := by
  fun_induction goOn endpoint left sent request
  case case5 requests _ _ _ _ _ _ ih =>
    have hlength : requests.length = _ := List.length_append
    rw [hlength, List.length_singleton] at ih
    omega
  all_goals grind

/-! ### What comes of it -/

/-- The reply that is brought is the one to all that was sent. -/
theorem reply_of_goOn (h : (goOn endpoint left sent request).outcome = .ok reply) :
    endpoint (goOn endpoint left sent request).requests = some reply := by
  fun_induction goOn endpoint left sent request
  case case5 ih => exact ih h
  case case3 hreply _ _ _ | case6 hreply _ =>
    obtain rfl := Except.ok.inj h
    exact hreply
  all_goals cases h

/-- A reply that is not followed is brought, if it is the one to all that was sent. -/
theorem outcome_goOn
    (hreply : endpoint (goOn endpoint left sent request).requests = some reply)
    (hfinal : reply.isRedirection = false ∨ reply.location = .absent ∧
      (goOn endpoint left sent request).requests.length ≤ sent.length + left) :
    (goOn endpoint left sent request).outcome = .ok reply := by
  fun_induction goOn endpoint left sent request
  case case1 hnone =>
    rw [hreply] at hnone
    cases hnone
  case case5 requests _ _ _ _ _ _ ih =>
    have hlength : requests.length = _ := List.length_append
    rw [hlength, List.length_singleton] at ih
    exact ih hreply (hfinal.imp_right fun ⟨habsent, hle⟩ => ⟨habsent, by omega⟩)
  case case3 hfound _ _ _ | case6 hfound _ =>
    exact congrArg Except.ok (Option.some.inj (hfound.symm.trans hreply))
  -- Two ways to lose a reply: too many were followed, or where this one points to is no address.
  case case2 found hfound hredirection =>
    obtain rfl : found = reply := Option.some.inj (hfound.symm.trans hreply)
    rw [hredirection, List.length_append, List.length_singleton] at hfinal
    rcases hfinal with hstatus | ⟨-, hle⟩
    · cases hstatus
    · omega
  case case4 found hfound hredirection _ hturn =>
    obtain rfl : found = reply := Option.some.inj (hfound.symm.trans hreply)
    rcases hfinal with hstatus | ⟨habsent, -⟩
    · rw [hredirection] at hstatus
      cases hstatus
    · rw [Request.turn, habsent] at hturn
      cases hturn

end Exchange

namespace Remote

variable {r : Remote} {endpoint : Endpoint} {q : Query} {request : Request} {reply : Reply}
  {fault : TransportFault}

/-- The reply is what the exchange about a query brings. -/
def Brings (r : Remote) (endpoint : Endpoint) (q : Query) (reply : Reply) : Prop :=
  ∃ request, r.request q = .ok request ∧ (r.exchange endpoint request).outcome = .ok reply

theorem hindrance?_eq_none_iff :
    r.hindrance? = none ↔ Request.isSendable r.token ∧ r.timeout ≠ some 0 := by
  rw [hindrance?]
  cases Request.isSendable r.token <;> simp

theorem exchange_of_none (h : r.hindrance? = none) :
    r.exchange endpoint request = .goOn endpoint Exchange.redirectLimit [] request := by
  rw [exchange, h]

theorem exchange_of_some (h : r.hindrance? = some fault) :
    r.exchange endpoint request = { outcome := .error fault } := by
  rw [exchange, h]

theorem sent_of_request (h : r.request q = .ok request) :
    r.sent endpoint q = (r.exchange endpoint request).requests := by
  rw [sent, h]

theorem Brings.execute_eq (h : r.Brings endpoint q reply) (explain : Explanation) :
    r.execute endpoint q explain = reply.toResult explain := by
  obtain ⟨request, hrequest, hreply⟩ := h
  rw [execute, hrequest, ok_bind, Exchange.toResult, hreply]

/-- What is brought is the reply to all that is sent. -/
theorem Brings.endpoint_sent (h : r.Brings endpoint q reply) :
    endpoint (r.sent endpoint q) = some reply := by
  obtain ⟨request, hrequest, hreply⟩ := h
  rw [sent_of_request hrequest]
  cases hhindrance : r.hindrance? with
  | none =>
    rw [exchange_of_none hhindrance] at hreply ⊢
    exact Exchange.reply_of_goOn hreply
  | some fault =>
    rw [exchange_of_some hhindrance] at hreply
    cases hreply

/-- With the first reply the exchange is over, if that is not followed. -/
theorem brings_of_isFinal (hrequest : r.request? q = some request)
    (hreply : endpoint [request] = some reply) (hfinal : reply.IsFinal 1) :
    r.Brings endpoint q reply := by
  obtain ⟨hnone, hrequest⟩ := request?_eq_some_iff.1 hrequest
  refine ⟨request, hrequest, ?_⟩
  have hstays := hfinal.imp_right fun h => And.intro h.1 (by decide : 0 < Exchange.redirectLimit)
  rw [exchange_of_none hnone, Exchange.goOn_of_stays hreply hstays]

/-- The reply to all that is sent is brought, if it is not followed. -/
theorem brings_of_sent (hreply : endpoint (r.sent endpoint q) = some reply)
    (hsent : r.sent endpoint q ≠ []) (hfinal : reply.IsFinal (r.sent endpoint q).length) :
    r.Brings endpoint q reply := by
  have hrequest := r.request_eq_ok q
  refine ⟨_, hrequest, ?_⟩
  rw [sent_of_request hrequest] at hreply hsent hfinal
  cases hhindrance : r.hindrance? with
  | none =>
    rw [exchange_of_none hhindrance] at hreply hfinal ⊢
    exact Exchange.outcome_goOn hreply (by simpa [Reply.IsFinal] using hfinal)
  | some fault =>
    rw [exchange_of_some hhindrance] at hsent
    exact absurd rfl hsent

/-- All that is sent for a query: nothing, or the query, and then what few replies lead to. -/
theorem sent_cases (r : Remote) (endpoint : Endpoint) (q : Query) :
    (∃ fault, r.hindrance? = some fault ∧ r.sent endpoint q = [] ∧ ∀ explain,
      r.execute endpoint q explain = .error (Exchange.requestFailed (explain fault))) ∨
    ∃ request later, r.request? q = some request ∧ r.sent endpoint q = request :: later ∧
      later.length ≤ Exchange.redirectLimit ∧ Exchange.IsLinked endpoint (request :: later) := by
  obtain ⟨request, hrequest⟩ : ∃ request, r.request q = .ok request := ⟨_, r.request_eq_ok q⟩
  cases hhindrance : r.hindrance? with
  | none =>
    have hsent : r.sent endpoint q =
        (Exchange.goOn endpoint Exchange.redirectLimit [] request).requests := by
      rw [sent_of_request hrequest, exchange_of_none hhindrance]
    have hlinked : Exchange.IsLinked endpoint (r.sent endpoint q) :=
      hsent ▸ Exchange.isLinked_goOn (Exchange.isLinked_singleton endpoint request)
    have hlength : (r.sent endpoint q).length ≤ 0 + Exchange.redirectLimit + 1 :=
      hsent ▸ Exchange.length_goOn_le
    have hfirst : [] ++ [request] <+: r.sent endpoint q := hsent ▸ Exchange.prefix_goOn
    obtain ⟨later, hlater⟩ := hfirst
    rw [← hlater] at hlinked hlength ⊢
    rw [Nat.zero_add] at hlength
    exact .inr ⟨request, later, request?_eq_some_iff.2 ⟨hhindrance, hrequest⟩, rfl,
      Nat.le_of_succ_le_succ hlength, hlinked⟩
  | some fault =>
    refine .inl ⟨fault, rfl, ?_, fun explain => ?_⟩
    · rw [sent_of_request hrequest, exchange_of_some hhindrance]
    · rw [execute, hrequest, ok_bind, exchange_of_some hhindrance, Exchange.toResult]

end Remote

end SeriesQuery
