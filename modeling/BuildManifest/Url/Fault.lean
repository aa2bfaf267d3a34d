import BuildManifest.Text

/-!
Why a text is no url.
-/

namespace BuildManifest

namespace Url

inductive Fault where
  | noScheme
  | emptyHost
  | badHostName
  | badHostCharacter
  | badIpv4
  | badIpv6
  | badNumber
  deriving DecidableEq, Repr

def Fault.message : Fault → Text
  | .noScheme => "relative URL without a base"
  | .emptyHost => "empty host"
  | .badHostName => "invalid international domain name"
  | .badHostCharacter => "invalid domain character"
  | .badIpv4 => "invalid IPv4 address"
  | .badIpv6 => "invalid IPv6 address"
  | .badNumber => "invalid port number"

end Url

end BuildManifest
