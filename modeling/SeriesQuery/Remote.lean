import SeriesQuery.Remote.Reply
import SeriesQuery.Remote.Request
import SeriesQuery.Settings
import SeriesQuery.Text.Quoted

/-!
# Remote execution

A remote store runs a query: a request posts it to its endpoint, and the reply becomes a result or an
error. A reply can point to another address, and then that is asked for, a few times in a row. Nothing
is sent twice.
-/

namespace SeriesQuery

/-- An endpoint answers the last one of all the requests that have been sent to it. It may break off
without a reply, or not reply in time. -/
abbrev Remote.Endpoint := List Request → Option Reply

/-- What comes of a request: all that is sent, and the reply that is not followed. -/
structure Exchange where
  requests : List Request := []
  outcome : Except TransportFault Reply

/-- What is done about a reply that may point to another address. -/
inductive Turn where
  | stay
  | lose
  | go (next : Request)

/-- A posted text is not sent on: only some statuses lead from it, to a request without a text. -/
def Request.turn (request : Request) (reply : Reply) : Turn :=
  match reply.location with
  | .absent => .stay
  | .unusable => .lose
  | .address target query =>
    if reply.status = 301 ∨ reply.status = 302 ∨ reply.status = 303 then
      .go (request.redirected target query)
    else if (reply.status = 307 ∨ reply.status = 308) ∧ request.method = "GET" then
      .go (request.redirected target query)
    else .stay

/-- The statuses of replies that may point to another address. -/
def Reply.isRedirection (r : Reply) : Bool := 300 ≤ r.status && r.status < 399

namespace Exchange

/-- So many replies are followed. -/
def redirectLimit : Nat := 4

/-- Sends a request behind those that have been sent, and goes on where its reply points to. -/
def goOn (endpoint : Remote.Endpoint) (left : Nat) (sent : List Request) (request : Request) :
    Exchange :=
  let requests := sent ++ [request]
  match endpoint requests with
  | none => { requests, outcome := .error .noReply }
  | some reply =>
    if reply.isRedirection then
      match left with
      | 0 => { requests, outcome := .error .tooManyRedirects }
      | left + 1 =>
        match request.turn reply with
        | .stay => { requests, outcome := .ok reply }
        | .lose => { requests, outcome := .error .badLocation }
        | .go next => goOn endpoint left requests next
    else { requests, outcome := .ok reply }

def requestFailed (causes : List String) : Error :=
  { kind := .io, message := some "request failed", causes }

def toResult (explain : Explanation) (x : Exchange) : Except Error QueryResult :=
  match x.outcome with
  | .ok reply => reply.toResult explain
  | .error fault => .error (requestFailed (explain fault))

end Exchange

structure Remote where
  base : BaseUrl
  token : Option String := none
  /-- Milliseconds. -/
  timeout : Option UInt64 := none
  deriving DecidableEq

namespace Remote

def new (url : String) : Except Error Remote := do
  return { base := ← BaseUrl.parse url }

def missingUrl : Error :=
  { kind := .usage
    message := some "remote executor needs a base url"
    hint := some "Pass --url or set TSQUERY_URL." }

def ofSettings (settings : Settings) : Except Error Remote := do
  match settings.url with
  | none => .error missingUrl
  | some url =>
    return { base := ← BaseUrl.parse url, token := settings.token, timeout := settings.timeout }

def withToken (r : Remote) (token : String) : Remote :=
  { r with token := some token }

/-- A description for people, which does not give the token away. -/
def description (r : Remote) : String :=
  let token := match r.token with
    | some _ => "Some(\"<redacted>\")"
    | none => "None"
  "RemoteExecutor \x7b base_url: " ++ quoted r.base.text ++ ", token: " ++ token ++ " \x7d"

/-- The request that posts a query. -/
def request (r : Remote) (q : Query) : Except Error Request := do
  let address ← BaseUrl.below Request.querySegments (.web r.base.root)
  return Request.post address r.token q.payload.compactText

/-- What keeps every request from being sent: a token that cannot stand in a header, or a timeout
that is over at once. -/
def hindrance? (r : Remote) : Option TransportFault :=
  if !Request.isSendable r.token then some .unsendable
  else if r.timeout = some 0 then some .outOfTime
  else none

/-- The request that is sent for a query, if any. -/
def request? (r : Remote) (q : Query) : Option Request :=
  if r.hindrance?.isNone then (r.request q).toOption else none

def exchange (r : Remote) (endpoint : Endpoint) (request : Request) : Exchange :=
  match r.hindrance? with
  | some fault => { outcome := .error fault }
  | none => .goOn endpoint Exchange.redirectLimit [] request

/-- All that is sent for a query. -/
def sent (r : Remote) (endpoint : Endpoint) (q : Query) : List Request :=
  match r.request q with
  | .ok request => (r.exchange endpoint request).requests
  | .error _ => []

def execute (r : Remote) (endpoint : Endpoint) (q : Query)
    (explain : Explanation := .silent) : Except Error QueryResult := do
  let request ← r.request q
  (r.exchange endpoint request).toResult explain

end Remote

end SeriesQuery
