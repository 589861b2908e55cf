import WebSocket.Address
import WebSocket.Bytes
import WebSocket.System.Errno
import WebSocket.Text.Numeral

/-
A network of sockets within one machine.  Sockets are bound to endpoints, listen, connect and are
accepted; bytes that one end of a connection sends arrive at the other at once, in order, and stay
there until they are received.  An operation that cannot be done reports an error number and
returns no network, so that it changes nothing.  The network stands in for that of an operating
system; it keeps any number of connections waiting, and no call waits in it, since nothing that is
waited for comes later.

A listener may answer by itself: the connections to it then read a request until it is complete and
send back a response that was laid down in advance.
-/
namespace WebSocket

/-- An address and a port. -/
structure Endpoint where
  address : Address
  port : Nat
deriving DecidableEq

namespace Endpoint

/-- The address that stands before the port of an endpoint.  One of version 6 is put in
brackets. -/
def readAddress? : List Char → Option Address
  | '[' :: rest =>
    if rest.getLast? = some ']' then
      (Address6.ofText? (String.ofList rest.dropLast)).map .v6
    else none
  | cs => (Address4.ofText? (String.ofList cs)).map .v4

/-- The endpoint that a text writes. -/
def ofText? (s : String) : Option Endpoint := do
  let numeral := (s.toList.reverse.takeWhile (· != ':')).reverse
  let address ← readAddress? (s.toList.take (s.toList.length - numeral.length - 1))
  let port ← Text.number? 10 Text.bound16 (String.ofList numeral)
  return { address, port }

/-- The machine itself answers to the addresses of its loopback, and to those that stand for every
address. -/
def isLocal (e : Endpoint) : Bool :=
  e.address.isUnspecified ||
    match e.address with
    | .v4 a => a.a == 127
    | .v6 _ => e.address == .loopback .ipv6

end Endpoint

/-- How a listener answers by itself. -/
structure AutoReply where
  /-- Whether the bytes received so far make a whole request. -/
  isComplete : Bytes → Bool
  response : Bytes
  /-- Whether the connection stays open after the response. -/
  hold : Bool

/-- What a socket is used for. -/
inductive SocketRole
  | idle
  /-- Waits for connections, the oldest first. -/
  | listening (pending : List Nat)
  /-- One end of a connection: the other end, and its address. -/
  | connected (peer : Nat) (remote : Endpoint)
deriving DecidableEq

/-- A socket as the network sees it. -/
structure NetworkSocket where
  family : Family
  bound : Option Endpoint
  role : SocketRole
  /-- Whether another socket that says so too may share the endpoint. -/
  reuse : Bool
  /-- What has arrived and has not been received. -/
  arrived : Bytes
  /-- Whether nothing more will arrive. -/
  ended : Bool
  autoReply : Option AutoReply

namespace NetworkSocket

/-- A socket that has just been created. -/
def new (family : Family) : NetworkSocket :=
  { family
    bound := none
    role := .idle
    reuse := false
    arrived := []
    ended := false
    autoReply := none }

/-- The connections that wait to be accepted. -/
def pending (s : NetworkSocket) : List Nat :=
  match s.role with
  | .listening pending => pending
  | _ => []

/-- Whether a socket is one end of a connection. -/
def isConnected (s : NetworkSocket) : Bool :=
  match s.role with
  | .connected _ _ => true
  | _ => false

/-- Whether a socket listens. -/
def isListening (s : NetworkSocket) : Bool :=
  match s.role with
  | .listening _ => true
  | _ => false

/-- Whether nothing has come that was not received, and more may come. -/
def isQuiet (s : NetworkSocket) : Bool :=
  s.arrived.isEmpty && !s.ended

end NetworkSocket

/-- All sockets of the machine, by their numbers. -/
structure Network where
  sockets : List (Nat × NetworkSocket)
  /-- The number of the next socket. -/
  nextId : Nat
  /-- Where the search for a free port starts. -/
  nextPort : Nat

namespace Network

/-- The network without sockets.  Ports that nobody chose are taken from the dynamic range. -/
def empty : Network :=
  { sockets := []
    nextId := 0
    nextPort := 49152 }

/-- The socket of a number. -/
def socket? (n : Network) (id : Nat) : Option NetworkSocket :=
  n.sockets.lookup id

/-- What the socket of a number is used for. -/
def role? (n : Network) (id : Nat) : Option SocketRole :=
  (n.socket? id).map NetworkSocket.role

/-- The network with one socket changed. -/
def modify (n : Network) (id : Nat) (f : NetworkSocket → NetworkSocket) : Network :=
  { n with
    sockets := n.sockets.map fun entry =>
      if entry.1 == id then (entry.1, f entry.2) else entry }

/-- Adds a socket. -/
def add (n : Network) (s : NetworkSocket) : Nat × Network :=
  (n.nextId, { n with sockets := n.sockets ++ [(n.nextId, s)], nextId := n.nextId + 1 })

/-- Creates a socket. -/
def create (n : Network) (family : Family) : Nat × Network :=
  n.add (.new family)

/-! ## Endpoints -/

/-- Whether a port is taken by any socket. -/
def portTaken (n : Network) (port : Nat) : Bool :=
  n.sockets.any fun entry => entry.2.bound.any (·.port == port)

/-- A port that is not taken.  Among one port more than there are sockets one is free. -/
def freePort (n : Network) : Nat :=
  ((List.range (n.sockets.length + 1)).map (n.nextPort + ·)).find? (!n.portTaken ·)
    |>.getD n.nextPort

/-- The endpoint itself, or one with a free port if it leaves the port open. -/
def settleEndpoint (n : Network) (e : Endpoint) : Endpoint × Network :=
  if e.port = 0 then
    let port := n.freePort
    ({ e with port }, { n with nextPort := port + 1 })
  else (e, n)

/-- Whether two endpoints of one family can be told apart. -/
def overlaps (a b : Endpoint) : Bool :=
  a.port == b.port && a.address.family == b.address.family &&
    (a.address == b.address || a.address.isUnspecified || b.address.isUnspecified)

/-- Whether a socket keeps others from an endpoint. -/
def blocks (other : NetworkSocket) (e : Endpoint) (reuse : Bool) : Bool :=
  !other.isConnected && other.bound.any (overlaps e) &&
    !(reuse && other.reuse && !other.isListening)

/-- Binds a socket to an endpoint. -/
def bind (n : Network) (id : Nat) (e : Endpoint) : Except Int Network :=
  match n.socket? id with
  | none => .error Errno.invalidArgument
  | some s =>
    if !e.isLocal then .error Errno.addressNotAvailable
    else if s.bound.isSome then .error Errno.invalidArgument
    else
      let (e, n) := n.settleEndpoint e
      if n.sockets.any fun entry => entry.1 != id && blocks entry.2 e s.reuse then
        .error Errno.addressInUse
      else .ok (n.modify id fun s => { s with bound := some e })

/-- The endpoint that a socket is bound to. -/
def localEndpoint (n : Network) (id : Nat) : Except Int Endpoint :=
  match n.socket? id with
  | none => .error Errno.invalidArgument
  | some s => .ok (s.bound.getD ⟨.unspecified s.family, 0⟩)

/-- The endpoint at the other end of a connection. -/
def remoteEndpoint (n : Network) (id : Nat) : Except Int Endpoint :=
  match n.role? id with
  | some (.connected _ remote) => .ok remote
  | _ => .error Errno.notConnected

/-- Sets whether an endpoint may be shared. -/
def setReuse (n : Network) (id : Nat) (reuse : Bool) : Network :=
  n.modify id fun s => { s with reuse }

/-! ## Connections -/

/-- Makes a socket listen.  One that is not bound takes a free port of every address. -/
def listen (n : Network) (id : Nat) : Except Int Network :=
  match n.socket? id with
  | none => .error Errno.invalidArgument
  | some s =>
    match s.role with
    | .connected _ _ => .error Errno.invalidArgument
    | .listening _ => .ok n
    | .idle =>
      let (e, n) := match s.bound with
        | some e => (e, n)
        | none => n.settleEndpoint ⟨.unspecified s.family, 0⟩
      .ok (n.modify id fun s => { s with bound := some e, role := .listening [] })

/-- The socket that takes connections to an endpoint. -/
def listener? (n : Network) (family : Family) (e : Endpoint) : Option (Nat × NetworkSocket) :=
  n.sockets.find? fun entry =>
    entry.2.isListening && entry.2.family == family && entry.2.bound.any fun own =>
      own.port == e.port && (own.address == e.address || own.address.isUnspecified)

/-- Connects a socket to an endpoint.  The other end exists from now on and waits to be
accepted. -/
def connect (n : Network) (id : Nat) (target : Endpoint) : Except Int Network :=
  match n.socket? id with
  | none => .error Errno.invalidArgument
  | some s =>
    if s.role ≠ .idle then .error Errno.isConnected
    else if !target.isLocal then .error Errno.networkUnreachable
    else
      match n.listener? s.family target with
      | none => .error Errno.connectionRefused
      | some (listenerId, listener) =>
        let (own, n) := match s.bound with
          | some own => (own, n)
          | none => n.settleEndpoint ⟨.loopback s.family, 0⟩
        let (peer, n) := n.add
          { NetworkSocket.new s.family with
            bound := some target
            role := .connected id own
            autoReply := listener.autoReply }
        let n := n.modify id fun s => { s with bound := some own, role := .connected peer target }
        .ok (n.modify listenerId fun l => { l with role := .listening (l.pending ++ [peer]) })

/-- Accepts the connection that has waited longest: its number, and where it comes from. -/
def accept (n : Network) (id : Nat) : Except Int ((Nat × Endpoint) × Network) :=
  match n.role? id with
  | some (.listening (peer :: rest)) => do
    let remote ← n.remoteEndpoint peer
    return ((peer, remote), n.modify id fun s => { s with role := .listening rest })
  | some (.listening []) => .error Errno.wouldBlock
  | _ => .error Errno.invalidArgument

/-! ## Bytes -/

/-- Lets a socket know that nothing more will arrive. -/
def finish (n : Network) (id : Nat) : Network :=
  n.modify id fun s => { s with ended := true }

/-- Delivers bytes to a socket. -/
def deliver (n : Network) (id : Nat) (data : Bytes) : Network :=
  n.modify id fun s => { s with arrived := s.arrived ++ data }

/-- Lets a socket that answers by itself do so once its request is complete. -/
def react (n : Network) (id : Nat) : Network :=
  match n.socket? id with
  | none => n
  | some s =>
    match s.autoReply, s.role with
    | some reply, .connected peer _ =>
      if reply.isComplete s.arrived then
        let n := (n.modify id fun s => { s with autoReply := none }).deliver peer reply.response
        if reply.hold then n else n.finish peer
      else n
    | _, _ => n

/-- Sends bytes to the other end of a connection, and says how many were taken. -/
def send (n : Network) (id : Nat) (data : Bytes) : Except Int (Nat × Network) :=
  match n.role? id with
  | some (.connected peer _) =>
    if (n.socket? peer).isSome then .ok (data.length, (n.deliver peer data).react peer)
    else .error Errno.brokenPipe
  | _ => .error Errno.brokenPipe

/-- Receives at most `limit` of the bytes that have arrived.  No bytes mean the end. -/
def receive (n : Network) (id limit : Nat) : Except Int (Bytes × Network) :=
  match n.socket? id with
  | none => .error Errno.notConnected
  | some s =>
    if !s.isConnected then .error Errno.notConnected
    else if s.isQuiet then .error Errno.wouldBlock
    else .ok (s.arrived.take limit, n.modify id fun s => { s with arrived := s.arrived.drop limit })

/-- The network after all that has arrived at a socket has been received but for what is left. -/
def leave (n : Network) (id : Nat) (left : Bytes) : Network :=
  n.modify id fun s => { s with arrived := left }

/-- Tells the other end of a connection that no more bytes follow. -/
def shutWriting (n : Network) (id : Nat) : Network :=
  match n.role? id with
  | some (.connected peer _) => n.finish peer
  | _ => n

/-- Removes one socket, and lets the other end of its connection know. -/
def remove (n : Network) (id : Nat) : Network :=
  let n := n.shutWriting id
  { n with sockets := n.sockets.filter (·.1 != id) }

/-- Closes a socket, together with the connections that wait to be accepted by it. -/
def close (n : Network) (id : Nat) : Network :=
  let waiting := ((n.socket? id).map NetworkSocket.pending).getD []
  (waiting.foldl remove n).remove id

/-! ## The world outside -/

/-- Opens a connection from an address of one's choice to an endpoint. -/
def dial (n : Network) (source : Address) (target : Endpoint) : Except Int (Nat × Network) := do
  let (own, n) := n.settleEndpoint ⟨source, 0⟩
  let (id, n) := n.add { NetworkSocket.new source.family with bound := some own }
  let n ← n.connect id target
  return (id, n)

/-- Opens a listener at an endpoint. -/
def serve (n : Network) (e : Endpoint) (reply : Option AutoReply) : Except Int (Nat × Network) := do
  let (id, n) := n.create e.address.family
  let n ← n.bind id e
  let n ← n.listen id
  return (id, n.modify id fun s => { s with autoReply := reply })

/-- The bytes that connections to a port have received and kept. -/
def keptAt (n : Network) (port : Nat) : Bytes :=
  n.sockets.flatMap fun entry =>
    if entry.2.isConnected && entry.2.bound.any (·.port == port) then entry.2.arrived else []

end Network
end WebSocket
