import WebSocket.Address
import WebSocket.System.Errno

/-
The failures of a socket: the kind of operation that failed, and why.  Two classes of system
failure have a kind of their own whatever the operation was: one that may be tried again later,
and, while sending or receiving, the loss of the peer.
-/
namespace WebSocket

/-- What kind of socket operation failed, or how. -/
inductive SocketErrorKind
  | createFailed
  | bindFailed
  | listenFailed
  | acceptFailed
  | connectFailed
  | sendFailed
  | recvFailed
  | connectionClosed
  | wouldBlock
  | invalidArgument
deriving DecidableEq

namespace SocketErrorKind

/-- The name of a kind. -/
def name : SocketErrorKind → String
  | .createFailed => "CreateFailed"
  | .bindFailed => "BindFailed"
  | .listenFailed => "ListenFailed"
  | .acceptFailed => "AcceptFailed"
  | .connectFailed => "ConnectFailed"
  | .sendFailed => "SendFailed"
  | .recvFailed => "RecvFailed"
  | .connectionClosed => "ConnectionClosed"
  | .wouldBlock => "WouldBlock"
  | .invalidArgument => "InvalidArgument"

/-- The kind under which a system failure is reported when it strikes an operation of this kind. -/
def strickenBy (kind : SocketErrorKind) : FailureClass → SocketErrorKind
  | .wouldBlock => .wouldBlock
  | .timedOut => .wouldBlock
  | .brokenPipe => lost kind
  | .connectionAborted => lost kind
  | .connectionReset => lost kind
  | _ => kind
where
  /-- The kind that reports the loss of the peer. -/
  lost : SocketErrorKind → SocketErrorKind
    | .sendFailed => .connectionClosed
    | .recvFailed => .connectionClosed
    | other => other

end SocketErrorKind

/-- Why a socket operation failed. -/
inductive SocketFault
  | closed
  | notAddress (text : String)
  | wrongFamily (text : String) (family : Family)
  | wroteNothing
  | peerClosed
  | unresolved (domain why : String)
  | noAddresses
  | system (text : String) (code : Option Int)
  | other (text : String)
deriving DecidableEq

namespace SocketFault

/-- What went wrong, in words. -/
def message : SocketFault → String
  | .closed => "socket is closed"
  | .notAddress text => "not an IP address: " ++ text
  | .wrongFamily text family => text ++ " does not match socket family " ++ family.name
  | .wroteNothing => "wrote zero bytes"
  | .peerClosed => "connection closed by peer"
  | .unresolved domain why => "cannot resolve " ++ domain ++ ": " ++ why
  | .noAddresses => "host resolved to no addresses"
  | .system text _ => text
  | .other text => text

/-- The system's error number, if the failure came from the system. -/
def osCode : SocketFault → Option Int
  | .system _ code => code
  | _ => none

end SocketFault

/-- A failed socket operation. -/
structure SocketError where
  kind : SocketErrorKind
  fault : SocketFault
deriving DecidableEq

namespace SocketError

/-- A system failure that struck an operation of the given kind. -/
def ofFailure (kind : SocketErrorKind) (failure : IoFailure) : SocketError :=
  { kind := kind.strickenBy failure.cause
    fault := .system failure.text failure.code }

/-- The kind and what went wrong. -/
def text (e : SocketError) : String :=
  e.kind.name ++ ": " ++ e.fault.message

/-- Whether the operation may succeed when it is tried again later. -/
def isWouldBlock (e : SocketError) : Bool :=
  e.kind == .wouldBlock

end SocketError
end WebSocket
