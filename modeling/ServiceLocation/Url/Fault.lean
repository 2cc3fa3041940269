/-!
**Why a text is no URL.**
-/

namespace ServiceLocation.Url

/-- The reasons for which a text is no URL. -/
inductive Fault where
  /-- A URL that needs a host has none. -/
  | emptyHost
  /-- The host is no domain name, or its labels are not valid. -/
  | invalidDomain
  /-- The port is no decimal number below `2 ^ 16`. -/
  | invalidPort
  /-- The host ends in a number but is no IPv4 address. -/
  | invalidIpv4
  /-- The host starts with a bracket but is no IPv6 address in brackets. -/
  | invalidIpv6
  /-- The host holds a character that no host may hold. -/
  | forbiddenCharacter
  /-- The text starts with no scheme. -/
  | noScheme
  deriving Repr, DecidableEq

namespace Fault

/-- The reason in words. -/
def message : Fault → String
  | emptyHost => "empty host"
  | invalidDomain => "invalid international domain name"
  | invalidPort => "invalid port number"
  | invalidIpv4 => "invalid IPv4 address"
  | invalidIpv6 => "invalid IPv6 address"
  | forbiddenCharacter => "invalid domain character"
  | noScheme => "relative URL without a base"

end Fault

end ServiceLocation.Url
