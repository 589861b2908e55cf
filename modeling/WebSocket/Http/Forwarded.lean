import WebSocket.Address
import WebSocket.Http.Headers

/-
Whom a request speaks for.  A proxy puts the address of its client into a header field; without a
usable one the request speaks for the peer that sent it.
-/
namespace WebSocket
namespace Http

/-- Whether a text may stand for a client. -/
def isIdentity (s : String) : Bool :=
  !s.isEmpty && !Text.same s "unknown"

/-- The client that a text names once the blanks around it are gone. -/
def usable? (s : String) : Option String :=
  let name := Text.trim s
  if isIdentity name then some name else none

/-- The first comma-separated piece of a list. -/
def firstPiece? (list : String) : Option String :=
  (Text.pieces "," list).head?

/-- The client that a request from `peer` speaks for. -/
def identify (peer : Address) (h : Headers) : String :=
  match ((h.get? "x-forwarded-for").bind firstPiece?).bind usable? with
  | some name => name
  | none =>
    match (h.get? "x-real-ip").bind usable? with
    | some name => name
    | none => peer.text

end Http
end WebSocket
