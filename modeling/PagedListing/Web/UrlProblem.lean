/-!
# Faults of URLs

The reasons for which a text is not a URL.
-/

namespace PagedListing.Web

/-- Why a text is not a URL. -/
inductive UrlProblem where
  | emptyHost
  | invalidDomain
  | invalidPort
  | invalidIpv4
  | invalidIpv6
  | invalidHostCharacter
  | noScheme
  deriving DecidableEq, Inhabited

/-- The wording of a fault. -/
def UrlProblem.message : UrlProblem → String
  | emptyHost => "empty host"
  | invalidDomain => "invalid international domain name"
  | invalidPort => "invalid port number"
  | invalidIpv4 => "invalid IPv4 address"
  | invalidIpv6 => "invalid IPv6 address"
  | invalidHostCharacter => "invalid domain character"
  | noScheme => "relative URL without a base"

end PagedListing.Web
