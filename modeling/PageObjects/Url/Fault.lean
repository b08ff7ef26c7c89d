/-
  PageObjects.Url.Fault

  Why a text is no address.
-/

namespace PageObjects

/-- Why a text is no address. -/
inductive UrlFault where
  | emptyHost
  | invalidPort
  | invalidIpv4
  | invalidIpv6
  | invalidDomain
  | invalidHostCharacter
  /-- The text is a relative address, and there is no base for it. -/
  | relativeWithoutBase
  /-- The text is a relative address, and the base has no hierarchy to start from. -/
  | relativeWithOpaqueBase
deriving DecidableEq, Repr

/-- The text of an address fault. -/
def UrlFault.text : UrlFault → String
  | .emptyHost => "empty host"
  | .invalidPort => "invalid port number"
  | .invalidIpv4 => "invalid IPv4 address"
  | .invalidIpv6 => "invalid IPv6 address"
  | .invalidDomain => "invalid international domain name"
  | .invalidHostCharacter => "invalid domain character"
  | .relativeWithoutBase => "relative URL without a base"
  | .relativeWithOpaqueBase => "relative URL with a cannot-be-a-base base"

end PageObjects
