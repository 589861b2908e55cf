import WebSocket.Network

/-
The system that programs call: the network, the clock, and the faults that are laid in wait for
calls.  A fault strikes the next call of its name, before the network is looked at, and is spent by
it; the call then fails and changes nothing.  A call that sends may also be cut short.
-/
namespace WebSocket

/-- The calls that can fail. -/
inductive SystemCall
  | socket
  | bind
  | listen
  | connect
  | accept
  | localAddress
  | setOption
  /-- Saying whether calls on a socket wait. -/
  | setBlocking
  | send
  | receive
  /-- Having the runtime of a program wait for a socket. -/
  | register
deriving DecidableEq

/-- What befalls a call. -/
inductive Mishap
  | fails (code : Int)
  /-- At most so many bytes are sent. -/
  | short (limit : Nat)
deriving DecidableEq

/-- A mishap that waits for the next call of a name. -/
structure Fault where
  call : SystemCall
  mishap : Mishap
deriving DecidableEq

/-- The network, the clock in milliseconds, and the faults in wait, the oldest first. -/
structure System where
  network : Network
  now : Nat
  faults : List Fault

namespace System

/-- The system without sockets and faults, at the start of its clock. -/
def empty : System :=
  { network := .empty
    now := 0
    faults := [] }

/-- The system at a reading of the clock, which never goes back. -/
def waitUntil (s : System) (time : Nat) : System :=
  { s with now := max s.now time }

/-- Lays a fault in wait. -/
def expect (s : System) (f : Fault) : System :=
  { s with faults := s.faults ++ [f] }

/-- The first mishap in wait for a call, and the faults without it. -/
def takeMishap (call : SystemCall) : List Fault → Option Mishap × List Fault
  | [] => (none, [])
  | f :: rest =>
    if f.call = call then (some f.mishap, rest)
    else
      let (mishap, rest) := takeMishap call rest
      (mishap, f :: rest)

/-- Lets the network act. -/
def act (s : System) (f : Network → Except Int (α × Network)) : Except Int α × System :=
  match f s.network with
  | .ok (a, network) => (.ok a, { s with network })
  | .error code => (.error code, s)

/-- Makes a call: a mishap strikes first, else the network acts. -/
def perform (s : System) (call : SystemCall) (f : Network → Except Int (α × Network)) :
    Except Int α × System :=
  match takeMishap call s.faults with
  | (some (.fails code), faults) => (.error code, { s with faults })
  | (_, faults) => { s with faults }.act f

/-- Sends bytes, as many as a mishap lets pass, and says how many were taken. -/
def send (s : System) (id : Nat) (data : Bytes) : Except Int Nat × System :=
  match takeMishap .send s.faults with
  | (some (.fails code), faults) => (.error code, { s with faults })
  | (some (.short limit), faults) => { s with faults }.act fun n => n.send id (data.take limit)
  | (none, _) => s.act fun n => n.send id data

end System
end WebSocket
