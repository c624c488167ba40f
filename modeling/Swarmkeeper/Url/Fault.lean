/-!
Why a text is no absolute address of a resource.
-/

namespace Swarmkeeper.Url

/-- What is wrong with a text as a URL. -/
inductive Fault where
  | relative
  | emptyHost
  | invalidPort
  | invalidV4
  | invalidV6
  /-- The host has a character that no host may have. -/
  | invalidCharacter
  /-- The host is no domain name. -/
  | invalidDomain
deriving DecidableEq, Repr

/-- The wording of a fault. -/
def Fault.message : Fault → String
  | relative => "relative URL without a base"
  | emptyHost => "empty host"
  | invalidPort => "invalid port number"
  | invalidV4 => "invalid IPv4 address"
  | invalidV6 => "invalid IPv6 address"
  | invalidCharacter => "invalid domain character"
  | invalidDomain => "invalid international domain name"

end Swarmkeeper.Url
