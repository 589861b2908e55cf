import WebSocket.Error
import WebSocket.System

/-
Sockets for programs.  A socket belongs to one family of addresses, takes endpoints as text and a
port, and reports failures by the kind of operation.  A closed socket has no number any more, and
what needs one fails.  An interrupted send or receive is made again.
-/
namespace WebSocket

/-- An operation on the system that can fail. -/
abbrev SocketAction := ExceptT SocketError (StateM System)

/-- An operation of a program on the system. -/
abbrev SystemAction := ExceptT Error (StateM System)

/-- An operation on a socket as one of a program. -/
def onSocket (a : SocketAction α) : SystemAction α :=
  a.adapt .socket

/-- The result of an operation, which may be a failure. -/
def outcome (a : ExceptT ε (StateM System) α) : ExceptT ε' (StateM System) (Except ε α) :=
  ExceptT.lift a.run

/-- A socket in the hands of a program. -/
structure Socket where
  /-- The number of the socket in the network, until it is closed. -/
  id : Option Nat
  family : Family
deriving DecidableEq

namespace Socket

/-! ## Failures -/

/-- Fails for a reason of the library's own. -/
def fail (kind : SocketErrorKind) (fault : SocketFault) : SocketAction α :=
  throw { kind, fault }

/-- Makes a call of the system on behalf of an operation of the given kind. -/
def attempt (kind : SocketErrorKind) (f : System → Except Int α × System) : SocketAction α :=
  ExceptT.mk fun s =>
    match f s with
    | (.ok a, s) => (.ok a, s)
    | (.error code, s) => (.error (.ofFailure kind (Errno.failure code)), s)

/-- The number of a socket that is open. -/
def opened (s : Socket) : SocketAction Nat :=
  match s.id with
  | some id => pure id
  | none => fail .invalidArgument .closed

/-- The endpoint that an address in text and a port make, in the family of the socket. -/
def resolve (s : Socket) (kind : SocketErrorKind) (address : String) (port : Nat) :
    SocketAction Endpoint :=
  match Address.ofText? address with
  | none => fail .invalidArgument (.notAddress address)
  | some a =>
    if a.family = s.family then pure { address := a, port }
    else fail kind (.wrongFamily address s.family)

/-- Pairs a network with nothing. -/
def only (n : Network) : Unit × Network :=
  ((), n)

/-! ## Opening -/

/-- Creates a socket. -/
def create (family : Family) : SocketAction Socket := do
  let id ← attempt .createFailed (·.perform .socket fun n => .ok (n.create family))
  return { id := some id, family }

/-- Binds a socket. -/
def bind (s : Socket) (address : String) (port : Nat) : SocketAction Unit := do
  let e ← s.resolve .bindFailed address port
  let id ← s.opened
  attempt .bindFailed (·.perform .bind fun n => (n.bind id e).map only)

/-- Makes a socket listen.  The network keeps as many connections waiting as come, whatever the
backlog is. -/
def listen (s : Socket) (_backlog : Int := 128) : SocketAction Unit := do
  let id ← s.opened
  attempt .listenFailed (·.perform .listen fun n => (n.listen id).map only)

/-- Accepts a connection: the socket of this end, and where the connection comes from. -/
def accept (s : Socket) : SocketAction (Socket × Endpoint) := do
  let id ← s.opened
  let (peer, remote) ← attempt .acceptFailed (·.perform .accept fun n => n.accept id)
  return ({ id := some peer, family := remote.address.family }, remote)

/-- Connects a socket. -/
def connect (s : Socket) (address : String) (port : Nat) : SocketAction Unit := do
  let e ← s.resolve .connectFailed address port
  let id ← s.opened
  attempt .connectFailed (·.perform .connect fun n => (n.connect id e).map only)

/-! ## Bytes -/

/-- Makes a call, and makes it again as often as it is interrupted, up to `fuel` times. -/
def retry (kind : SocketErrorKind) (f : System → Except Int α × System) :
    (fuel : Nat) → SocketAction α
  | 0 => attempt kind f
  | fuel + 1 => do
    match f (← get) with
    | (.error code, s) =>
      set s
      if Errno.failureClass code = .interrupted then retry kind f fuel
      else throw (.ofFailure kind (Errno.failure code))
    | (.ok a, s) =>
      set s
      return a

/-- Makes a call until it is not interrupted.  Only a fault interrupts, and each does so once. -/
def persist (kind : SocketErrorKind) (f : System → Except Int α × System) : SocketAction α := do
  retry kind f (← get).faults.length

/-- Sends some of the bytes, and says how many. -/
def send (s : Socket) (data : Bytes) : SocketAction Nat := do
  let id ← s.opened
  persist .sendFailed (·.send id data)

/-- Sends the bytes in as many parts as it takes, up to `fuel`. -/
def sendParts (s : Socket) : (fuel : Nat) → Bytes → SocketAction Unit
  | 0, _ => pure ()
  | fuel + 1, data => do
    if data.isEmpty then return
    let count ← s.send data
    if count = 0 then fail .sendFailed .wroteNothing
    s.sendParts fuel (data.drop count)

/-- Sends all of the bytes.  Every part takes at least one. -/
def sendAll (s : Socket) (data : Bytes) : SocketAction Unit :=
  s.sendParts (data.length + 1) data

/-- Receives at most `limit` bytes.  That none come although some were wanted is the end of the
connection. -/
def receive (s : Socket) (limit : Nat) : SocketAction Bytes := do
  let id ← s.opened
  let data ← persist .recvFailed (·.perform .receive fun n => n.receive id limit)
  if data.isEmpty && limit > 0 then fail .connectionClosed .peerClosed
  return data

/-! ## Options and addresses -/

/-- Says whether calls wait for what they need.  Nothing that is waited for comes later, so that a
call which would wait fails in either case, and the network does not keep what it is told. -/
def setBlocking (s : Socket) (_blocking : Bool) : SocketAction Unit := do
  let _ ← s.opened
  attempt .invalidArgument (·.perform .setBlocking fun n => .ok (only n))

/-- Says whether others may share the endpoint. -/
def setReuse (s : Socket) (reuse : Bool) : SocketAction Unit := do
  let id ← s.opened
  attempt .invalidArgument (·.perform .setOption fun n => .ok (only (n.setReuse id reuse)))

/-- Limits the wait for bytes, in milliseconds.  The system takes a limit of zero for none and does
not refuse it. -/
def setReadTimeout (s : Socket) (_limit : Option Nat) : SocketAction Unit := do
  let _ ← s.opened
  attempt .invalidArgument (·.perform .setOption fun n => .ok (only n))

/-- Where the other end of the connection is. -/
def remoteEndpoint (s : Socket) : SocketAction Endpoint := do
  let id ← s.opened
  attempt .invalidArgument (·.act fun n => (n.remoteEndpoint id).map (·, n))

/-- The address at the other end of the connection, in words. -/
def remoteAddress (s : Socket) : SocketAction String := do
  let remote ← s.remoteEndpoint
  return remote.address.text

/-- Where the socket is bound. -/
def localEndpoint (s : Socket) : SocketAction Endpoint := do
  let id ← s.opened
  attempt .invalidArgument (·.perform .localAddress fun n => (n.localEndpoint id).map (·, n))

/-! ## Closing -/

/-- Closes a socket.  One that is closed stays so. -/
def close (s : Socket) : StateM System Socket := do
  match s.id with
  | some id =>
    modify fun sys => { sys with network := sys.network.close id }
    return { s with id := none }
  | none => return s

/-- Whether a socket is closed. -/
def isClosed (s : Socket) : Bool :=
  s.id.isNone

/-- Gives up the socket for its number. -/
def release (s : Socket) : SocketAction Nat :=
  s.opened

/-- Whether an endpoint could be bound now. -/
def isAvailable (address : String) (port : Nat) : StateM System Bool := do
  match Address.ofText? address with
  | none => return false
  | some a =>
    match ← (create a.family).run with
    | .error _ => return false
    | .ok s =>
      let result ← (s.bind address port).run
      let _ ← s.close
      return result.isOk

end Socket
end WebSocket
