import RelyingParty.Domain.Ascii
import RelyingParty.Url.Address
import RelyingParty.Url.Percent

/-!
# Hosts

The host of a URL. Under a special scheme it is a domain name or an address; under any other scheme
it is kept as it is, apart from addresses of version 6.
-/

namespace RelyingParty.Url

open RelyingParty.Text

/-- Why a text is not a URL. -/
inductive Fault where
  /-- The host is empty. -/
  | emptyHost
  /-- The host is not a valid domain name. -/
  | invalidDomain
  /-- The port is not a number of 16 bits. -/
  | invalidPort
  /-- The host is a number, but not an address of version 4. -/
  | invalidIpv4
  /-- The host is in brackets, but not an address of version 6. -/
  | invalidIpv6
  /-- The host holds a character that it may not hold. -/
  | invalidCharacter
  /-- There is no scheme. -/
  | noScheme
deriving DecidableEq, Repr

/-- The fault in words. -/
def Fault.message : Fault → String
  | emptyHost => "empty host"
  | invalidDomain => "invalid international domain name"
  | invalidPort => "invalid port number"
  | invalidIpv4 => "invalid IPv4 address"
  | invalidIpv6 => "invalid IPv6 address"
  | invalidCharacter => "invalid domain character"
  | noScheme => "relative URL without a base"

/-- The host of a URL. -/
inductive Host where
  /-- A name, which may be empty under a scheme that is not special. -/
  | name (text : String)
  /-- An address of version 4. -/
  | ipv4 (address : Ipv4)
  /-- An address of version 6. -/
  | ipv6 (address : Ipv6)
deriving DecidableEq, Repr

namespace Host

/-- The host as it stands in a URL. -/
def text : Host → String
  | name text => text
  | ipv4 address => address.text
  | ipv6 address => "[" ++ address.text ++ "]"

/-- The address in brackets, if the host begins with one. -/
def bracketed? (host : List Char) : Option (Except Fault Host) :=
  match host with
  | '[' :: rest =>
    some <|
      if rest.getLast? = some ']' then
        match Ipv6.ofText? rest.dropLast with
        | some address => .ok (.ipv6 address)
        | none => .error .invalidIpv6
      else .error .invalidIpv6
  | _ => none

/-- The host that a domain name in ASCII is. -/
def ofAscii (domain : String) : Except Fault Host :=
  if domain.isEmpty then .error .emptyHost
  else if Ipv4.isWanted domain.toList then
    match Ipv4.ofHost? domain.toList with
    | some address => .ok (.ipv4 address)
    | none => .error .invalidIpv4
  else .ok (.name domain)

/-- The host under a special scheme. -/
def special (host : List Char) : Except Fault Host :=
  match bracketed? host with
  | some result => result
  | none =>
    let bytes := percentDecode (Utf8.encode (String.ofList host))
    match (Utf8.decode? bytes).bind Domain.toAscii? with
    | some domain => ofAscii domain
    | none => .error .invalidDomain

/-- Characters that a host under another scheme may not hold. -/
def isForbidden (c : Char) : Bool :=
  c.toNat = 0 ||
    ['\t', '\n', '\r', ' ', '#', '/', ':', '<', '>', '?', '@', '[', '\\', ']', '^', '|'].contains c

/-- The host under a scheme that is not special. -/
def plain (host : List Char) : Except Fault Host :=
  match bracketed? host with
  | some result => result
  | none =>
    if host.any isForbidden then .error .invalidCharacter
    else .ok (.name (percentEncode isControl host))

end Host

end RelyingParty.Url
