/-! # URL errors

Why a text is no absolute URL, and the wording of it.
-/

namespace PipelineDepot

/-- Why a text is no absolute URL. -/
inductive UrlError
  /-- The text does not start with a scheme. -/
  | noScheme
  | emptyHost
  /-- The host is no domain name, not even an international one. -/
  | badDomain
  /-- A host that is no domain name holds a character that it must not hold. -/
  | badHostCharacter
  | badIpv4
  | badIpv6
  | badPort
  deriving DecidableEq, Repr

/-- The wording of a URL error. -/
def UrlError.message : UrlError → String
  | noScheme => "relative URL without a base"
  | emptyHost => "empty host"
  | badDomain => "invalid international domain name"
  | badHostCharacter => "invalid domain character"
  | badIpv4 => "invalid IPv4 address"
  | badIpv6 => "invalid IPv6 address"
  | badPort => "invalid port number"

end PipelineDepot
