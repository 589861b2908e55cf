import WebSocket.Transport.Codec

/-
What has been read from a connection so far: the head of the upgrade request, once it is there, and
the frames after it.  Reading goes on by calls, each for the next item, and a call by single steps,
each of which looks at the buffer and takes at most one arrival.
-/
namespace WebSocket

/-- A connection that is read, and what has been read from it. -/
structure Intake where
  codec : Codec
  head : Option Bytes
  frames : List Frame

namespace Intake

/-- Nothing has been read from a connection that the peer closes after the given chunks. -/
def ofChunks (limits : Limits) (chunks : List Bytes) : Intake :=
  { codec := .ofChunks limits chunks
    head := none
    frames := [] }

/-- One step of reading: of the head, as long as it is missing, and else of a frame.  An error
leaves what has been read as it is, and the next step tries again. -/
def advance (i : Intake) : Intake :=
  match i.head with
  | none =>
    match i.codec.stepHead with
    | .done (.ok head) codec => { i with codec, head := some head }
    | .done (.error _) codec => { i with codec }
    | .more codec => { i with codec }
    | .waiting => i
  | some _ =>
    match i.codec.stepFrame with
    | .done (.ok frame) codec => { i with codec, frames := i.frames ++ [frame] }
    | .done (.error _) codec => { i with codec }
    | .more codec => { i with codec }
    | .waiting => i

/-- One call for the next item: the head, as long as it is missing, and else a frame. -/
def call (i : Intake) : Intake :=
  match i.head with
  | none =>
    match i.codec.readHead with
    | (some (.ok head), codec) => { i with codec, head := some head }
    | (_, codec) => { i with codec }
  | some _ =>
    match i.codec.readFrame with
    | (some (.ok frame), codec) => { i with codec, frames := i.frames ++ [frame] }
    | (_, codec) => { i with codec }

/-- Takes a number of steps. -/
def advanceBy : (steps : Nat) → Intake → Intake
  | 0, i => i
  | steps + 1, i => advanceBy steps i.advance

end Intake
end WebSocket
