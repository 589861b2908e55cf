/-
The states in the life of a connection, in their order.  A connection moves forward only, and from
every state it may close.
-/
namespace WebSocket

/-- The states of a connection. -/
inductive ConnectionState
  | awaitingRequest
  | handshaking
  | open
  | closing
  | closed
deriving DecidableEq

namespace ConnectionState

/-- The place of a state in the order. -/
def rank : ConnectionState → Nat
  | .awaitingRequest => 0
  | .handshaking => 1
  | .open => 2
  | .closing => 3
  | .closed => 4

/-- The name of a state. -/
def name : ConnectionState → String
  | .awaitingRequest => "AwaitingRequest"
  | .handshaking => "Handshaking"
  | .open => "Open"
  | .closing => "Closing"
  | .closed => "Closed"

/-- The states in their order. -/
def all : List ConnectionState :=
  [.awaitingRequest, .handshaking, .open, .closing, .closed]

/-- Whether messages may be sent. -/
def canSend (s : ConnectionState) : Bool :=
  s == .open

/-- Whether a connection may move from one state to another. -/
def canMoveTo (s next : ConnectionState) : Bool :=
  next == .closed || s.rank < next.rank

end ConnectionState
end WebSocket
