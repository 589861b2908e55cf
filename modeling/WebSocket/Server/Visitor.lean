import WebSocket.Frame.Decoder
import WebSocket.Server

/-
Visitors: the other ends of a server's connections, as a client has them in its hands.  A visitor
that wants to see something lets the server go on until it is there.
-/
namespace WebSocket

/-- A connection to a server, by the number of the visitor's socket. -/
structure Visitor where
  socket : Nat
deriving DecidableEq

namespace Visitor

/-- What a visitor wants to see. -/
inductive Want
  | head
  | frame
  | ending
deriving DecidableEq

/-- What a visitor sees.  At the end it sees all that is left. -/
inductive Sight
  | head (head : Bytes)
  | frame (frame : Frame)
  | ending (left : Bytes)
deriving DecidableEq

/-- What a visitor that wants something sees among the bytes that have come, and what is left. -/
def find? (want : Want) (d : Bytes) : Option (Sight × Bytes) :=
  match want with
  | .head => (Http.headSize? d).map fun size => (.head (d.take size), d.drop size)
  | .frame =>
    match Frame.decode d with
    | .ok (frame, size) => some (.frame frame, d.drop size)
    | .error _ => none
  | .ending => none

/-- What a visitor sees. -/
def look (v : Visitor) (want : Want) (_ : Server) (sys : System) : Option (Sight × Bytes) :=
  match sys.network.socket? v.socket with
  | none => none
  | some socket =>
    match find? want socket.arrived with
    | some found => some found
    | none => if socket.ended then some (.ending socket.arrived, []) else none

/-- Where a visitor finds a server that listens at an endpoint. -/
def destination (e : Endpoint) : Endpoint :=
  if e.address.isUnspecified then { e with address := .loopback e.address.family } else e

/-- Where the visitors of a server come from, unless they say otherwise. -/
def home (s : Server) : Address :=
  .loopback ((s.endpoint?.map fun e => e.address.family).getD .ipv4)

/-- A new visitor of a server, from an address of its choice. -/
def call (s : Server) (source : Address) : StateM System (Option Visitor) := do
  match s.endpoint? with
  | none => return none
  | some e =>
    match ← modifyGet (·.act fun n => n.dial source (destination e)) with
    | .ok socket => return some { socket }
    | .error _ => return none

/-- Sends bytes, which are lost if the server has closed the connection. -/
def send (v : Visitor) (data : Bytes) : StateM System Unit :=
  modify fun sys => (sys.act fun n => n.send v.socket data).2

/-- Lets the server go on until the visitor sees what it wants, or the end. -/
def read (v : Visitor) (want : Want) (s : Server) : StateM System (Option Sight × Server) := do
  let (found, s) ← s.await (v.look want)
  match found with
  | none => return (none, s)
  | some (sight, left) =>
    modify fun sys => { sys with network := sys.network.leave v.socket left }
    return (some sight, s)

/-- Says that no more will be sent, and reads to the end. -/
def part (v : Visitor) (s : Server) : StateM System (Option Sight × Server) := do
  modify fun sys => { sys with network := sys.network.shutWriting v.socket }
  v.read .ending s

/-- Leaves without a word. -/
def vanish (v : Visitor) : StateM System Unit :=
  modify fun sys => { sys with network := sys.network.close v.socket }

end Visitor
end WebSocket
