import SeriesQuery.Url.Host
import SeriesQuery.Url.UserInfo

/-!
# Authorities

What stands in an address between the slashes and the path: user info, a host and a port. The web
schemes and a few others are special: a backslash counts as a slash, the host has to be there, and
its name is read as a domain name. In other schemes a host is nearly any text and can be empty.
-/

namespace SeriesQuery.Url

structure Authority where
  userInfo : UserInfo
  host : Host
  /-- The port, if one is given. -/
  port : Option UInt16
  deriving DecidableEq

namespace Authority

def portText : Option UInt16 → List Char
  | some port => ':' :: Nat.toDigits 10 port.toNat
  | none => []

/-- The authority as it is written. -/
def text (a : Authority) : List Char :=
  a.userInfo.text ++ (a.host.text ++ portText a.port)

def isSlash (special : Bool) (c : Char) : Bool :=
  c == '/' || special && c == '\\'

def isEnd (special : Bool) (c : Char) : Bool :=
  isSlash special c || c == '?' || c == '#'

/-- User info is all before the last at sign. An at sign that nothing stands before or after is
refused when more follows. -/
def splitUserInfo (text rest : List Char) : Except Flaw (UserInfo × List Char) :=
  match splitLast? '@' text with
  | none => .ok (.none, text)
  | some ([], []) => if rest.isEmpty then .ok (.none, []) else .error .emptyHost
  | some (userInfo, place) => .ok (UserInfo.parse userInfo, place)

/-- The host and what stands after it from the first colon outside brackets on. -/
def splitHost (inBrackets : Bool) : List Char → List Char × List Char
  | [] => ([], [])
  | c :: rest =>
    if c = ':' && !inBrackets then ([], c :: rest)
    else
      let inside := if c = '[' then true else if c = ']' then false else inBrackets
      let (host, port) := splitHost inside rest
      (c :: host, port)

/-- The port after a colon, which has no digits or denotes at most 65535. -/
def portOfDigits : List Char → Except Flaw (Option UInt16)
  | [] => .ok none
  | digits =>
    match Radix.decimal.boundedDigits 65535 .tooLarge 0 digits with
    | .ok n => .ok (some (UInt16.ofNat n))
    | .error _ => .error .badPort

def portOf : List Char → Except Flaw (Option UInt16)
  | ':' :: digits => portOfDigits digits
  | _ => .ok none

/-- The authority of a special scheme and what comes after it. The text starts behind
the slashes. -/
def parseSpecial (text : List Char) : Except Flaw (Authority × List Char) := do
  let rest := text.dropWhile fun c => !isEnd true c
  let (userInfo, place) ← splitUserInfo (text.takeWhile fun c => !isEnd true c) rest
  let (host, port) := splitHost false place
  if host.isEmpty then .error .emptyHost
  let host ← Host.parse host
  let port ← portOf port
  return ({ userInfo, host, port }, rest)

/-- Characters that no host may have in a scheme that is not special. -/
def isOpaqueForbidden (c : Char) : Bool :=
  c.toNat == 0 ||
    ['\t', '\n', '\r', ' ', '#', '/', ':', '<', '>', '?', '@', '[', '\\', ']', '^', '|'].contains c

/-- A host of a scheme that is not special only has to be well formed. -/
def checkOpaqueHost : List Char → Except Flaw Unit
  | '[' :: rest => (Host.ofBrackets rest).map fun _ => ()
  | host => if host.any isOpaqueForbidden then .error .badHostCharacter else .ok ()

/-- An authority of a scheme that is not special. A port or user info needs a host. -/
def checkOpaque (text : List Char) : Except Flaw Unit := do
  let rest := text.dropWhile fun c => !isEnd false c
  let (userInfo, place) ← splitUserInfo (text.takeWhile fun c => !isEnd false c) rest
  let (host, port) := splitHost false place
  checkOpaqueHost host
  if host.isEmpty && !port.isEmpty then .error .emptyHost
  let _ ← portOf (port.takeWhile (· != '\\'))
  if host.isEmpty && !userInfo.isEmpty then .error .emptyHost

def isDriveLetter : List Char → Bool
  | [letter, mark] => letter.isAlpha && (mark == ':' || mark == '|')
  | _ => false

/-- The host of a file. None is needed, and a drive letter is none. -/
def checkFile (text : List Char) : Except Flaw Unit :=
  let host := text.takeWhile fun c => !isEnd true c
  if host.isEmpty || isDriveLetter host then .ok () else (Host.parse host).map fun _ => ()

end Authority

end SeriesQuery.Url
