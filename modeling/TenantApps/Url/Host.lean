import TenantApps.Idna.Domain
import TenantApps.Text.Percent
import TenantApps.Text.Quoted
import TenantApps.Url.Ipv6

/-!
# `TenantApps.Url.Host` — hosts

The host of a special scheme is a domain name or an IP address (`Host.parse`); the host of any other
scheme is kept in percent-encoded form (`Host.parseAny`).

## Contents
- `UrlError`, the errors of URL parsing.
- `Host`, with `text` and `debug`.
- `Host.parse` and `Host.parseAny`.
-/

namespace TenantApps

/-- Why a URL does not parse. -/
inductive UrlError
  /-- No scheme. -/
  | relativeWithoutBase
  /-- A relative reference to a URL with an opaque path. -/
  | baseWithoutSegments
  /-- A special scheme without host. -/
  | emptyHost
  /-- The host is not a domain name. -/
  | domainName
  /-- The host contains a forbidden character. -/
  | domainCharacter
  /-- The host ends in a number and is not an IPv4 address. -/
  | ipv4
  /-- The bracketed host is not an IPv6 address. -/
  | ipv6
  /-- The port is not a 16-bit number. -/
  | port
  deriving DecidableEq, Repr

/-- The message text. -/
def UrlError.message : UrlError → String
  | relativeWithoutBase => "relative URL without a base"
  | baseWithoutSegments => "relative URL with a cannot-be-a-base base"
  | emptyHost => "empty host"
  | domainName => "invalid international domain name"
  | domainCharacter => "invalid domain character"
  | ipv4 => "invalid IPv4 address"
  | ipv6 => "invalid IPv6 address"
  | port => "invalid port number"

/-- A host. -/
inductive Host
  /-- An ASCII domain name, or the opaque host of a scheme that is not special. -/
  | name (text : String)
  | ipv4 (address : Ipv4)
  | ipv6 (address : Ipv6)
  deriving DecidableEq, Repr

namespace Host

/-- The serialized host. -/
def text : Host → String
  | name s => s
  | ipv4 a => String.ofList a.chars
  | ipv6 a => String.ofList ('[' :: a.chars ++ [']'])

/-- The diagnostic text. -/
def debug : Host → String
  | name s => "Domain(" ++ Quoted.quote s ++ ")"
  | ipv4 a => "Ipv4(" ++ String.ofList a.chars ++ ")"
  | ipv6 a => "Ipv6(" ++ String.ofList a.displayChars ++ ")"

/-- An IPv6 address in brackets. -/
def bracketed (cs : List Char) : Except UrlError Host :=
  match (if cs.getLast? = some ']' then Ipv6.parse? (cs.drop 1).dropLast else none) with
  | some a => .ok (ipv6 a)
  | none => .error .ipv6

/-- A host of ASCII characters: IPv4 address or domain name. -/
def ofAscii (domain : List Char) : Except UrlError Host :=
  if domain = [] then .error .emptyHost
  else if Ipv4.endsInNumber domain then
    match Ipv4.parse? domain with
    | some a => .ok (ipv4 a)
    | none => .error .ipv4
  else .ok (name (String.ofList domain))

/-- The host of a special scheme. -/
def parse (cs : List Char) : Except UrlError Host :=
  if cs.head? = some '[' then bracketed cs
  else
    match (Utf8.ofBytes? (Percent.decode cs)).bind fun s => Idna.toAscii? s.toList with
    | none => .error .domainName
    | some domain => ofAscii domain

/-- Forbidden host characters. -/
def isForbidden (c : Char) : Bool := "\x00\t\n\r #/:<>?@[\\]^|".toList.contains c

/-- The control set of percent-encoding. -/
def escapes (c : Char) : Bool := c.toNat < 0x20 || 0x7f ≤ c.toNat

/-- The opaque host of any other scheme. -/
def parseAny (cs : List Char) : Except UrlError Host :=
  if cs.head? = some '[' then bracketed cs
  else if cs.any isForbidden then .error .domainCharacter
  else .ok (name (String.ofList (Percent.encode escapes cs)))

end Host

end TenantApps
