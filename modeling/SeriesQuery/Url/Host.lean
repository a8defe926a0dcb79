import SeriesQuery.Url.Domain
import SeriesQuery.Url.Ipv4
import SeriesQuery.Url.Ipv6
import SeriesQuery.Url.Percent

/-!
# Hosts

A host is a domain name or an address. Brackets hold an IPv6 address. Anything else is a name with
percent signs resolved; a name whose last label is a number has to be an IPv4 address.
-/

namespace SeriesQuery

/-- Why an address is refused. -/
inductive Url.Flaw where
  | noScheme
  | emptyHost
  | badPort
  | badIpv4
  | badIpv6
  | badDomain
  | badHostCharacter
  deriving DecidableEq

def Url.Flaw.message : Url.Flaw → String
  | .noScheme => "relative URL without a base"
  | .emptyHost => "empty host"
  | .badPort => "invalid port number"
  | .badIpv4 => "invalid IPv4 address"
  | .badIpv6 => "invalid IPv6 address"
  | .badDomain => "invalid international domain name"
  | .badHostCharacter => "invalid domain character"

inductive Host where
  | domain (name : List Char)
  | ipv4 (address : Ipv4)
  | ipv6 (address : Ipv6)
  deriving DecidableEq

namespace Host

/-- The address in brackets, from behind the first one. -/
def ofBrackets (text : List Char) : Except Url.Flaw Host :=
  if text.getLast? = some ']' then
    match Ipv6.parse? text.dropLast with
    | some address => .ok (.ipv6 address)
    | none => .error .badIpv6
  else .error .badIpv6

def ofDomain (name : List Char) : Except Url.Flaw Host :=
  if name.isEmpty then .error .emptyHost
  else if Ipv4.isIntended name then
    match Ipv4.parse? name with
    | some address => .ok (.ipv4 address)
    | none => .error .badIpv4
  else .ok (.domain name)

def parse (text : List Char) : Except Url.Flaw Host :=
  match text with
  | '[' :: rest => ofBrackets rest
  | text =>
    match Utf8.decode (Percent.decode text) with
    | .error _ => .error .badDomain
    | .ok name =>
      match Domain.toAscii? name with
      | none => .error .badDomain
      | some ascii => ofDomain ascii

def text : Host → List Char
  | domain name => name
  | ipv4 address => address.text
  | ipv6 address => '[' :: address.text ++ [']']

end Host

end SeriesQuery
