import SeriesQuery.Error
import SeriesQuery.Url.Address

/-!
# Base URLs

The endpoint is named by an address of the web without a path. Its query and its fragment say
nothing and are left out. Requests go to an address below it.
-/

namespace SeriesQuery

structure BaseUrl where
  scheme : Url.WebScheme
  authority : Url.Authority
  deriving DecidableEq

namespace BaseUrl

def invalid (flaw : Url.Flaw) : Error :=
  { kind := .usage, message := some "invalid remote base url", causes := [flaw.message] }

def wrongScheme : Error :=
  { kind := .usage, message := some "remote base url must use http or https scheme" }

def hasPath : Error :=
  { kind := .usage, message := some "remote base url must not include a path" }

def ofAddress : Url.Address → Except Error BaseUrl
  | .other _ => .error wrongScheme
  | .web address =>
    if address.path = Url.Path.root then
      .ok { scheme := address.scheme, authority := address.authority }
    else .error hasPath

def parse (raw : String) : Except Error BaseUrl :=
  match Url.Address.parse raw.toList with
  | .ok address => ofAddress address
  | .error flaw => .error (invalid flaw)

/-- The address of the root. -/
def root (u : BaseUrl) : Url.WebAddress :=
  { scheme := u.scheme, authority := u.authority, path := Url.Path.root }

def text (u : BaseUrl) : String := String.ofList u.root.text

def cannotBeBase : Error :=
  { kind := .usage, message := some "remote base url cannot be a base" }

/-- The address with the segments as its path, in place of the path that it has. Only an address of
the web has a path that can be taken apart. -/
def below (segments : List (List Char)) : Url.Address → Except Error Url.WebAddress
  | .other _ => .error cannotBeBase
  | .web address => .ok { address with path := segments.foldl Url.Path.push Url.Path.root }

end BaseUrl

end SeriesQuery
