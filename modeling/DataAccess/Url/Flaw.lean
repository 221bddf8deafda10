/-!
# `DataAccess.Url.Flaw`: why a text is no URL

The ways in which a text fails to be a URL, and their wording.
-/

set_option autoImplicit false

namespace DataAccess.Url

/-- Why a text is no URL. -/
inductive Flaw where
  /-- A host is needed and there is none. -/
  | emptyHost
  /-- The host is no domain name. -/
  | invalidDomainName
  /-- The port is no number of 16 bits. -/
  | invalidPort
  /-- The host ends like an IPv4 address and is none. -/
  | invalidIpv4
  /-- The host is in brackets and no IPv6 address. -/
  | invalidIpv6
  /-- The host has a character that no host has. -/
  | invalidDomainCharacter
  /-- There is no scheme. -/
  | relativeWithoutBase
  deriving DecidableEq, Repr

/-- The wording of a flaw. -/
def Flaw.message : Flaw → String
  | .emptyHost => "empty host"
  | .invalidDomainName => "invalid international domain name"
  | .invalidPort => "invalid port number"
  | .invalidIpv4 => "invalid IPv4 address"
  | .invalidIpv6 => "invalid IPv6 address"
  | .invalidDomainCharacter => "invalid domain character"
  | .relativeWithoutBase => "relative URL without a base"

end DataAccess.Url
