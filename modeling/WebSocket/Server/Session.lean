import WebSocket.Connection
import WebSocket.System

/-
A session: a connection and the socket that it is served on.  What arrives at the socket is brought
to the connection, and what the connection writes is sent, step by step, so that a failure of the
system strikes the very write that it befalls.
-/
namespace WebSocket

/-- A connection that is served on a socket. -/
structure Session where
  /-- The number of the socket. -/
  socket : Nat
  connection : Connection
  /-- How many bytes have been received. -/
  received : Nat
  /-- The size of the buffer that they are received into. -/
  room : Nat

namespace Session

/-! ## Receiving -/

/-- The room that is made for every read. -/
def minRoom : Nat := 4096

/-- The size of a buffer when it is read into.  One with too little room left grows, at least to
twice its size. -/
def grow (room used : Nat) : Nat :=
  if room - used < minRoom then max (2 * room) (used + minRoom) else room

/-- A read finds room. -/
theorem lt_grow (room used : Nat) : used < grow room used := by
  unfold grow minRoom
  split <;> omega

/-- The portions in which bytes are received into a buffer, each of them filling it, and the size
of the buffer afterwards. -/
def portions (room used : Nat) (data : Bytes) : List Bytes × Nat :=
  if data.isEmpty then ([], room)
  else
    let grown := grow room used
    let size := grown - used
    let (rest, last) := portions grown (used + size) (data.drop size)
    (data.take size :: rest, last)
termination_by data.length
decreasing_by
  have := lt_grow room used
  cases data with
  | nil => simp_all
  | cons => simp only [List.length_drop, List.length_cons]; omega

/-- The failure that a call meets, as the connection sees it.  That there was nothing to receive is
none. -/
def struckBy : Except Int Unit → List Arrival
  | .ok () => []
  | .error code => if code = Errno.wouldBlock then [] else [.failure (Errno.failure code)]

/-- The session with what has come to its socket. -/
def take (s : Session) (failures : List Arrival) (data : Bytes) (ended : Bool) : Session :=
  let (chunks, room) := portions s.room s.received data
  let inbox := (failures.foldl .push s.connection.codec.inbox).deliver chunks
  let codec := { s.connection.codec with inbox := if ended then inbox.finish else inbox }
  { s with
    connection := { s.connection with codec }
    received := s.received + data.length
    room }

/-- Receives what has come to the socket. -/
def receive (s : Session) : StateM System Session := do
  match (← get).network.socket? s.socket with
  | none => return s
  | some socket =>
    if socket.isQuiet then return s
    let struck ← modifyGet fun sys =>
      sys.perform .receive fun n => .ok ((), n)
    modify fun sys => { sys with network := sys.network.leave s.socket [] }
    return s.take (struckBy struck) socket.arrived socket.ended

/-! ## Sending -/

/-- The failure of a write that takes no byte. -/
def wroteNothing : IoFailure :=
  { cause := .other
    text := "write zero"
    code := none }

/-- Sends bytes in as many parts as it takes, up to `fuel`, and says what failed. -/
def sendParts (socket : Nat) : (fuel : Nat) → Bytes → StateM System (Option IoFailure)
  | 0, _ => pure none
  | fuel + 1, data => do
    if data.isEmpty then return none
    match ← modifyGet (·.send socket data) with
    | .ok 0 => return some wroteNothing
    | .ok count => sendParts socket fuel (data.drop count)
    | .error code =>
      if code = Errno.wouldBlock then sendParts socket fuel data
      else return some (Errno.failure code)

/-- Sends bytes.  Every part takes a byte or uses up a fault. -/
def send (s : Session) (data : Bytes) : StateM System (Option IoFailure) := do
  sendParts s.socket (data.length + (← get).faults.length + 1) data

/-! ## Steps -/

/-- Sends what the next step of the connection writes, and lets the connection take the step. -/
def step? (s : Session) : StateM System (Option Session) := do
  let writeFailure ← s.send s.connection.nextWrite
  return { s.connection with writeFailure }.step?.map fun connection => { s with connection }

/-- Takes up to `fuel` steps. -/
def run : (fuel : Nat) → Session → StateM System Session
  | 0, s => pure s
  | fuel + 1, s => do
    match ← s.step? with
    | some s => run fuel s
    | none => return s

/-- Whether the connection is over. -/
def isFinished (s : Session) : Bool :=
  s.connection.isFinished

/-- Goes on until the connection waits or is over; then its socket is closed. -/
def progress (s : Session) : StateM System Session := do
  let s ← s.receive
  let s ← run s.connection.work s
  if s.isFinished then
    modify fun sys => { sys with network := sys.network.close s.socket }
  return s

/-- The reading of the clock at which the session goes on by itself. -/
def deadline? (s : Session) : Option Nat :=
  s.connection.phase.deadline?

end Session
end WebSocket
