/-!
# Errors in URLs
-/

namespace TrackerTraffic

/-- Why a text is no URL. -/
inductive UrlError where
  | relative
  | emptyHost
  | port
  | ipv4
  | ipv6
  | internationalDomain
  | domainCharacter
deriving DecidableEq

def UrlError.message : UrlError → String
  | .relative => "relative URL without a base"
  | .emptyHost => "empty host"
  | .port => "invalid port number"
  | .ipv4 => "invalid IPv4 address"
  | .ipv6 => "invalid IPv6 address"
  | .internationalDomain => "invalid international domain name"
  | .domainCharacter => "invalid domain character"

end TrackerTraffic
