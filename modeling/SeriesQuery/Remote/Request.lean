import SeriesQuery.BaseUrl
import SeriesQuery.Query.Payload
import SeriesQuery.Json.Printer
import SeriesQuery.Text.Base64
import SeriesQuery.Text.Pieces

/-!
# Requests

A text is posted to an address. A token is shown to the endpoint, or else the user info of the
address. A token that cannot stand in a header prevents the request. What a reply points to is asked
for without a text and without the token.
-/

namespace SeriesQuery

structure Request where
  method : String
  url : String
  path : String
  accept : String
  contentType : String
  authorization : Option String
  body : String
  deriving DecidableEq

namespace Request

/-- The segments of the path that queries are posted to. -/
def querySegments : List (List Char) :=
  [['t', 's'], ['v', '1'], ['q', 'u', 'e', 'r', 'y']]

def jsonType : String := "application/json"

/-- A visible ASCII character, a space, or a tab. -/
def isHeaderChar (c : Char) : Bool :=
  c == '\t' || (0x20 ≤ c.toNat && c.toNat < 0x7F)

/-- The value of a header as it is received: white space at its end is not part of it. -/
def headerValue (text : String) : String := String.ofList (trimEnd text.toList)

def bearer (token : String) : String := headerValue ("Bearer " ++ token)

def basic (u : UserInfo) : String :=
  "Basic " ++ String.ofList (Base64.encode (Utf8.encode (u.username ++ ':' :: u.password)))

def authorizationOf (userInfo : UserInfo) (token : Option String) : Option String :=
  match token with
  | some token => some (bearer token)
  | none => if userInfo.isEmpty then none else some (basic userInfo)

def isSendable (token : Option String) : Bool :=
  token.all fun text => text.toList.all isHeaderChar

def post (address : Url.WebAddress) (token : Option String) (body : String) : Request :=
  { method := "POST"
    url := String.ofList address.text
    path := String.ofList (Url.Path.text address.path)
    accept := jsonType
    contentType := jsonType
    authorization := authorizationOf address.authority.userInfo token
    body }

/-- The request for what a reply to this one points to. -/
def redirected (r : Request) (target : Url.WebAddress) (query : String) : Request :=
  { r with
    method := "GET"
    url := String.ofList target.text ++ query
    path := String.ofList (Url.Path.text target.path) ++ query
    authorization := authorizationOf target.authority.userInfo none
    body := "" }

end Request

end SeriesQuery
