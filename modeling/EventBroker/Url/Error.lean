/-
The ways in which a text is no address.
-/

namespace EventBroker.Url

inductive UrlError where
  | relative
  | emptyHost
  | invalidDomainName
  | invalidDomainCharacter
  | invalidIpv4
  | invalidIpv6
  | invalidPortNumber
  deriving DecidableEq

def UrlError.message : UrlError → String
  | .relative => "relative URL without a base"
  | .emptyHost => "empty host"
  | .invalidDomainName => "invalid international domain name"
  | .invalidDomainCharacter => "invalid domain character"
  | .invalidIpv4 => "invalid IPv4 address"
  | .invalidIpv6 => "invalid IPv6 address"
  | .invalidPortNumber => "invalid port number"

end EventBroker.Url
