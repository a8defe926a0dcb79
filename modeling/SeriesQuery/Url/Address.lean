import SeriesQuery.Url.Path

/-!
# Absolute addresses

An address starts with a scheme and a colon. Control characters and spaces around it do not count,
and neither do tabs and line breaks inside. An address of the web is taken apart; of any other one
only the scheme is kept, once it is well formed.
-/

namespace SeriesQuery.Url

inductive WebScheme where
  | http
  | https
  deriving DecidableEq

namespace WebScheme

def name : WebScheme → List Char
  | http => ['h', 't', 't', 'p']
  | https => ['h', 't', 't', 'p', 's']

def defaultPort : WebScheme → UInt16
  | http => 80
  | https => 443

def ofName? (name : List Char) : Option WebScheme :=
  [http, https].find? fun scheme => scheme.name == name

end WebScheme

structure WebAddress where
  scheme : WebScheme
  authority : Authority
  path : List (List Char)
  deriving DecidableEq

/-- The address as it is written. -/
def WebAddress.text (a : WebAddress) : List Char :=
  a.scheme.name ++ ':' :: '/' :: '/' :: (a.authority.text ++ Path.text a.path)

inductive Address where
  | web (address : WebAddress)
  | other (scheme : List Char)
  deriving DecidableEq

namespace Address

def isMargin (c : Char) : Bool := c.toNat ≤ 0x20

/-- The text without what does not count. -/
def clean (text : List Char) : List Char :=
  let inner := ((text.dropWhile isMargin).reverse.dropWhile isMargin).reverse
  inner.filter fun c => c != '\t' && c != '\n' && c != '\r'

def isSchemeChar (c : Char) : Bool :=
  c.isAlphanum || c == '+' || c == '-' || c == '.'

/-- The scheme in lower case, and what stands after its colon. -/
def splitScheme? (text : List Char) : Option (List Char × List Char) :=
  match splitFirst? ':' text with
  | some (letter :: scheme, rest) =>
    if letter.isAlpha && scheme.all isSchemeChar then
      some ((letter :: scheme).map Char.toLower, rest)
    else none
  | _ => none

/-- Schemes that have a host like the web schemes. -/
def hostSchemes : List (List Char) := [['w', 's'], ['w', 's', 's'], ['f', 't', 'p']]

def fileScheme : List Char := ['f', 'i', 'l', 'e']

def skipSlashes (text : List Char) : List Char :=
  text.dropWhile (Authority.isSlash true)

/-- An address of the web. The default port of its scheme is the same as none. -/
def parseWeb (scheme : WebScheme) (text : List Char) : Except Flaw WebAddress := do
  let (authority, rest) ← Authority.parseSpecial (skipSlashes text)
  let port := if authority.port = some scheme.defaultPort then none else authority.port
  return { scheme, authority := { authority with port }, path := Path.parse rest }

/-- Whether the rest of an address of another scheme is well formed. -/
def checkOther (scheme rest : List Char) : Except Flaw Unit :=
  if hostSchemes.contains scheme then (Authority.parseSpecial (skipSlashes rest)).map fun _ => ()
  else if scheme = fileScheme then
    match rest with
    | a :: b :: text =>
      if Authority.isSlash true a && Authority.isSlash true b then Authority.checkFile text
      else .ok ()
    | _ => .ok ()
  else
    match rest with
    | '/' :: '/' :: text => Authority.checkOpaque text
    | _ => .ok ()

def parse (text : List Char) : Except Flaw Address :=
  match splitScheme? (clean text) with
  | none => .error .noScheme
  | some (scheme, rest) =>
    match WebScheme.ofName? scheme with
    | some known => (parseWeb known rest).map Address.web
    | none => (checkOther scheme rest).map fun _ => Address.other scheme

end Address

end SeriesQuery.Url
