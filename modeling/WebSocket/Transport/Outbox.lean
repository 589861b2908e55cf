import WebSocket.Error

/-
The writing side of a connection.  A write is taken whole unless a failure has been set, which
then strikes every write.
-/
namespace WebSocket

/-- What a connection has written, latest first, and how its writes fail if they do. -/
structure Outbox where
  written : List Bytes
  failure : Option IoFailure
  /-- Whether the writing side has been shut. -/
  shut : Bool
deriving DecidableEq

namespace Outbox

/-- Nothing has been written. -/
def empty : Outbox :=
  { written := []
    failure := none
    shut := false }

/-- Writes bytes. -/
def write (o : Outbox) (d : Bytes) : Except Error Outbox :=
  match o.failure with
  | some failure => .error (.ofFailure failure)
  | none => .ok { o with written := d :: o.written }

/-- Shuts the writing side. -/
def close (o : Outbox) : Outbox :=
  { o with shut := true }

/-- All that has been written, in order. -/
def bytes (o : Outbox) : Bytes :=
  o.written.reverse.flatten

end Outbox
end WebSocket
