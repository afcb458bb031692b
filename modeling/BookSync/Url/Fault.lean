/-
What can be wrong with a URL.
-/

namespace BookSync.Url

/-- Why a text is not a URL. -/
inductive Fault
  /-- There is no scheme, so that the text could only be relative. -/
  | noScheme
  /-- The scheme, the user or the service asks for a host that is not there. -/
  | emptyHost
  /-- A name that cannot be the name of a host. -/
  | badDomain
  /-- A host with a character that no host may have. -/
  | badHostCharacter
  | badIpv4
  | badIpv6
  | badService
  deriving DecidableEq

/-- The message of a fault. -/
def Fault.message : Fault → String
  | noScheme => "relative URL without a base"
  | emptyHost => "empty host"
  | badDomain => "invalid international domain name"
  | badHostCharacter => "invalid domain character"
  | badIpv4 => "invalid IPv4 address"
  | badIpv6 => "invalid IPv6 address"
  | badService => "invalid port number"

end BookSync.Url
