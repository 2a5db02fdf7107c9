import TrackerTraffic.Bytes.Percent
import TrackerTraffic.Url.Domain
import TrackerTraffic.Url.Error
import TrackerTraffic.Url.Ipv4
import TrackerTraffic.Url.Ipv6

/-!
# Hosts

The host of a URL is a domain or an address.  Schemes that are not special take any
name, percent encoded.
-/

namespace TrackerTraffic.Url

/-- A host. -/
inductive Host where
  | domain (name : String)
  | ipv4 (address : Nat)
  | ipv6 (pieces : List Nat)
deriving DecidableEq

namespace Host

/-- The host as it stands in a URL. -/
def text : Host → String
  | domain name => name
  | ipv4 address => Ipv4.text address
  | ipv6 pieces => "[" ++ Ipv6.text pieces ++ "]"

def bracketed (cs : List Char) : Except UrlError Host :=
  if cs.getLast? = some ']' then
    match Ipv6.read? (cs.drop 1).dropLast with
    | some pieces => .ok (ipv6 pieces)
    | none => .error .ipv6
  else .error .ipv6

def read (cs : List Char) : Except UrlError Host :=
  if cs.head? = some '[' then bracketed cs
  else
    match (Utf8.decode? (Percent.decodeText cs)).bind Domain.toAscii? with
    | none => .error .internationalDomain
    | some [] => .error .emptyHost
    | some name =>
      if Ipv4.endsInNumber name then
        match Ipv4.read? name with
        | some address => .ok (ipv4 address)
        | none => .error .ipv4
      else .ok (domain (String.ofList name))

def isForbidden (c : Char) : Bool :=
  c.toNat == 0 ||
    [' ', '#', '/', ':', '<', '>', '?', '@', '[', '\\', ']', '^', '|'].contains c

def isControl (b : UInt8) : Bool := b.toNat < 32 || b.toNat == 127

/-- The host of a scheme that is not special; nothing for the empty host. -/
def readOpaque (cs : List Char) : Except UrlError (Option Host) :=
  if cs.isEmpty then .ok none
  else if cs.head? = some '[' then (bracketed cs).map some
  else if cs.any isForbidden then .error .domainCharacter
  else .ok (some (domain (String.ofList (Percent.encode isControl cs))))

end Host

end TrackerTraffic.Url
