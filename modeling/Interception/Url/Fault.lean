/-!
# Why a text is no URL
-/

namespace Interception.Url

inductive Fault where
  | relativeWithoutBase
  | emptyHost
  | invalidPort
  | invalidIpv4
  | invalidIpv6
  | invalidDomain
  | invalidHostCharacter
deriving DecidableEq, Repr

def Fault.message : Fault → String
  | .relativeWithoutBase => "relative URL without a base"
  | .emptyHost => "empty host"
  | .invalidPort => "invalid port number"
  | .invalidIpv4 => "invalid IPv4 address"
  | .invalidIpv6 => "invalid IPv6 address"
  | .invalidDomain => "invalid international domain name"
  | .invalidHostCharacter => "invalid domain character"

end Interception.Url
