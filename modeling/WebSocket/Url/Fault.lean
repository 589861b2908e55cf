/-
What is wrong with a text that is no URL.
-/
namespace WebSocket

/-- Why a text is no URL. -/
inductive UrlFault
  | noScheme
  | emptyHost
  | invalidDomain
  | invalidHostCharacter
  | invalidAddress4
  | invalidAddress6
  | invalidPort
deriving DecidableEq

namespace UrlFault

/-- A fault in words. -/
def message : UrlFault → String
  | .noScheme => "relative URL without a base"
  | .emptyHost => "empty host"
  | .invalidDomain => "invalid international domain name"
  | .invalidHostCharacter => "invalid domain character"
  | .invalidAddress4 => "invalid IPv4 address"
  | .invalidAddress6 => "invalid IPv6 address"
  | .invalidPort => "invalid port number"

end UrlFault
end WebSocket
