import SeriesQuery.Error.Reader
import SeriesQuery.Result.Reader
import SeriesQuery.Url.Address

/-!
# Replies

What an endpoint answers to a request, and what that means. A status below 400 brings a result. Any
other status brings the error that the body reports, or else one that follows from the status. No
more of a body is read than ten mebibytes, and a longer one is not read at all.
-/

namespace SeriesQuery

/-- Why an exchange brings no reply, or a reply without a body that can be read. -/
inductive TransportFault where
  | unsendable
  | outOfTime
  | noReply
  | badLocation
  | tooManyRedirects
  | bodyCut
  | bodyTooLong
  deriving DecidableEq

/-- What the transport says about a fault. Its words are passed on as causes. -/
abbrev Explanation := TransportFault → List String

/-- A transport that says nothing. -/
def Explanation.silent : Explanation := fun _ => []

/-- Where a reply points to, when that is read against the address of its request. -/
inductive Location where
  /-- The reply points nowhere. -/
  | absent
  /-- What the reply points to is no address of the web. -/
  | unusable
  /-- An address, and its query with the question mark. -/
  | address (target : Url.WebAddress) (query : String)
  deriving DecidableEq

structure Reply where
  status : Nat
  body : Bytes
  /-- Whether all bytes of the body arrive. -/
  complete : Bool := true
  location : Location := .absent
  deriving DecidableEq

namespace Reply

/-- Statuses that have no body, whatever is sent. -/
def hasNoBody (status : Nat) : Bool := status == 204 || status == 304

/-- As many bytes of a body are read. -/
def bodyLimit : Nat := 10 * 1024 * 1024

/-- The body as text, with replacement characters for bytes that are none. -/
def text (r : Reply) : Except TransportFault (List Char) :=
  if hasNoBody r.status then .ok []
  else if bodyLimit < r.body.length then .error .bodyTooLong
  else if r.complete then .ok (Utf8.decodeLossy r.body)
  else .error .bodyCut

def text? (r : Reply) : Option (List Char) := r.text.toOption

def unreadableBody (causes : List String) : Error :=
  { kind := .io, message := some "failed to read response body", causes }

def invalidResult (text : List Char) (fault : Json.Fault) : Error :=
  { kind := .internal, message := some "invalid response json", causes := [fault.message text] }

def resultOfText (text : List Char) : Except Error QueryResult :=
  match QueryResult.parse text with
  | .ok result => .ok result
  | .error fault => .error (invalidResult text fault)

def kindOfStatus (status : Nat) : ErrorKind :=
  if status = 400 ∨ status = 413 then .usage
  else if status = 401 ∨ status = 403 then .permission
  else if status = 404 then .notFound
  else if 500 ≤ status ∧ status ≤ 599 then .internal
  else .io

/-- The error that a refusal means. -/
def refusal (status : Nat) (text : List Char) : Error :=
  match Error.parse text with
  | .ok e => e
  | .error _ => { kind := kindOfStatus status, message := some s!"remote error status {status}" }

def toResult (explain : Explanation) (r : Reply) : Except Error QueryResult :=
  if r.status < 400 then
    match r.text with
    | .ok text => resultOfText text
    | .error fault => .error (unreadableBody (explain fault))
  else .error (refusal r.status (r.text?.getD []))

end Reply

end SeriesQuery
