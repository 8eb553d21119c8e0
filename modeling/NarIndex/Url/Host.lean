import NarIndex.Url.Domain
import NarIndex.Url.Ipv4
import NarIndex.Url.Ipv6

/-!
# NarIndex.Url.Host

The host of a URL: a name, or an address.  Special schemes have host names of the domain name
system; the names of all other schemes are any text without the characters that end a host.
-/

namespace NarIndex.Url

/-! ## parse errors -/

/-- Why a text is not a URL. -/
inductive ParseError where
  | emptyHost
  | invalidPort
  | invalidIpv4
  | invalidIpv6
  | invalidDomain
  | invalidDomainCharacter
  | relativeWithoutBase
  deriving DecidableEq, Repr

/-- The wording of a parse error. -/
def ParseError.message : ParseError → String
  | .emptyHost => "empty host"
  | .invalidPort => "invalid port number"
  | .invalidIpv4 => "invalid IPv4 address"
  | .invalidIpv6 => "invalid IPv6 address"
  | .invalidDomain => "invalid international domain name"
  | .invalidDomainCharacter => "invalid domain character"
  | .relativeWithoutBase => "relative URL without a base"

/-! ## hosts -/

/-- A host; a name is kept as it is written in the URL. -/
inductive Host where
  | name (text : List Char)
  | ipv4 (address : Nat)
  | ipv6 (pieces : List Nat)
  deriving DecidableEq, Repr

namespace Host

/-- A host as text. -/
def text : Host → List Char
  | .name text => text
  | .ipv4 address => Ipv4.write address
  | .ipv6 pieces => '[' :: (Ipv6.write pieces ++ [']'])

/-- Whether there is nothing to connect to. -/
def isEmpty (host : Host) : Bool :=
  host = .name []

/-- Characters that end a host or have no place in one. -/
def isForbidden (c : Char) : Bool :=
  ['\x00', '\t', '\n', '\r', ' ', '#', '/', ':', '<', '>', '?', '@', '[', '\\', ']', '^',
    '|'].contains c

/-- The IPv6 address between brackets, the first of which has been read. -/
def parseBracketed (s : List Char) : Except ParseError Host :=
  match s.getLast? with
  | some ']' =>
    match Ipv6.parse? s.dropLast with
    | some pieces => .ok (.ipv6 pieces)
    | none => .error .invalidIpv6
  | _ => .error .invalidIpv6

/-- The host of a scheme that is not special. -/
def parsePlain (s : List Char) : Except ParseError Host :=
  match s with
  | '[' :: s => parseBracketed s
  | s =>
    if s.any isForbidden then .error .invalidDomainCharacter
    else .ok (.name (escape isControl s))

/-- The host of a special scheme. -/
def parseSpecial (s : List Char) : Except ParseError Host :=
  match s with
  | '[' :: s => parseBracketed s
  | s =>
    match Domain.parse? s with
    | none => .error .invalidDomain
    | some [] => .error .emptyHost
    | some domain =>
      if Ipv4.endsInNumber domain then
        match Ipv4.parse? domain with
        | some address => .ok (.ipv4 address)
        | none => .error .invalidIpv4
      else .ok (.name domain)

end Host

end NarIndex.Url
