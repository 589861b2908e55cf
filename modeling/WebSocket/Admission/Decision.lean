/-
The answers to an attempt at admission.
-/
namespace WebSocket
namespace Admission

/-- The outcome of an attempt to admit a connection. -/
inductive Decision
  | admitted
  | rejectedGlobal
  | rejectedPerIp
  | rejectedRate
deriving DecidableEq

namespace Decision

/-- The name of a decision. -/
def name : Decision → String
  | .admitted => "Admitted"
  | .rejectedGlobal => "RejectedGlobal"
  | .rejectedPerIp => "RejectedPerIp"
  | .rejectedRate => "RejectedRate"

/-- What a decision means, in words. -/
def text : Decision → String
  | .admitted => "admitted"
  | .rejectedGlobal => "global connection limit reached"
  | .rejectedPerIp => "per-IP connection limit reached"
  | .rejectedRate => "per-IP connection rate exceeded"

end Decision
end Admission
end WebSocket
