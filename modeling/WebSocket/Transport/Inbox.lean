import WebSocket.System.Errno
import WebSocket.Bytes
import WebSocket.Sequence

/-
What has reached a connection and has not been read: chunks of bytes and failures in their order,
and whether the peer has closed its side after them.  Each read takes one of them.
-/
namespace WebSocket

/-- What one read of a connection meets. -/
inductive Arrival
  | bytes (chunk : Bytes)
  | failure (failure : IoFailure)
deriving DecidableEq

/-- What waits to be read. -/
structure Inbox where
  queue : List Arrival
  /-- Whether nothing follows what is queued. -/
  ended : Bool
deriving DecidableEq

namespace Inbox

/-- Nothing has arrived yet. -/
def empty : Inbox :=
  { queue := []
    ended := false }

/-- The inbox with one more arrival. -/
def push (inbox : Inbox) (a : Arrival) : Inbox :=
  { inbox with queue := inbox.queue ++ [a] }

/-- The inbox with further chunks.  An empty chunk would look like the end, so it is none. -/
def deliver (inbox : Inbox) (chunks : List Bytes) : Inbox :=
  { inbox with
    queue := inbox.queue ++ (chunks.filter (!·.isEmpty)).map .bytes }

/-- The inbox after the peer has closed its side. -/
def finish (inbox : Inbox) : Inbox :=
  { inbox with ended := true }

/-- The bytes that are queued. -/
def bytes (inbox : Inbox) : Bytes :=
  inbox.queue.flatMap fun
    | .bytes chunk => chunk
    | .failure _ => []

/-- How much an arrival weighs: one for itself, and one for each of its bytes. -/
def weight : Arrival → Nat
  | .bytes chunk => chunk.length + 1
  | .failure _ => 1

/-- How much is queued. -/
def load (inbox : Inbox) : Nat :=
  Sequence.total weight inbox.queue

/-! ## What is queued -/

theorem bytes_map_bytes (chunks : List Bytes) (ended : Bool) :
    (⟨chunks.map .bytes, ended⟩ : Inbox).bytes = chunks.flatten := by
  rw [bytes, List.flatMap_map]
  exact List.flatMap_id'

/-- What is delivered stands behind what is queued. -/
theorem bytes_deliver (inbox : Inbox) (chunks : List Bytes) :
    (inbox.deliver chunks).bytes = inbox.bytes ++ chunks.flatten := by
  have hf : (chunks.filter (!·.isEmpty)).flatten = chunks.flatten := by
    induction chunks with
    | nil => rfl
    | cons chunk chunks ih => cases chunk <;> simp [ih]
  have hm := bytes_map_bytes (chunks.filter (!·.isEmpty)) inbox.ended
  rw [bytes] at hm
  rw [bytes, deliver, List.flatMap_append, hm, hf]
  rfl

@[simp] theorem bytes_finish (inbox : Inbox) : inbox.finish.bytes = inbox.bytes := rfl

end Inbox

/-- The chunks of at most `size` bytes behind those in `found`, which stand latest first. -/
def chunksFrom (size : Nat) (found : List Bytes) (d : Bytes) : List Bytes :=
  if d.isEmpty || size == 0 then found.reverse
  else chunksFrom size (d.take size :: found) (d.drop size)
termination_by d.length
decreasing_by
  cases d with
  | nil => simp_all
  | cons => simp_all only [List.length_drop, List.length_cons, beq_iff_eq, Bool.or_eq_true]; omega

/-- A byte string in chunks of at most `size` bytes. -/
def chunksOf (size : Nat) (d : Bytes) : List Bytes :=
  chunksFrom size [] d

end WebSocket
