import WebSocket.Http.Chunked

/-
The decoding of chunks on a machine.  Sizes have 64 bits there, a sum of sizes has to be one, a
range of bytes has to lie inside what it is taken from, and a loop that does not end is noticed: each
of these is a trap, which is another matter than what may be wrong with the chunks.
-/
namespace WebSocket
namespace Http
namespace Chunked
namespace Guarded

/-- Where a machine stops. -/
inductive Trap
  | overflow
  | outOfRange
  | endless
deriving DecidableEq

/-- The sum of two sizes. -/
def add (a b : Nat) : Except Trap Nat :=
  if a + b < Text.bound64 then .ok (a + b) else .error .overflow

/-- The bytes from one place up to another. -/
def slice (d : Bytes) (start stop : Nat) : Except Trap Bytes :=
  if start ≤ stop ∧ stop ≤ d.length then .ok ((d.drop start).take (stop - start))
  else .error .outOfRange

/-- The bytes of a chunk of the given size, and what follows the line end behind it.  Here alone a
sum that is no size is foreseen. -/
def takeChunk (size : Nat) (d : Bytes) : Except Trap (Except ResponseFault (Bytes × Bytes)) :=
  match add size lineEnd.length with
  | .error _ => return .error .chunkSizeTooLarge
  | .ok stop =>
    if d.length < stop then return .error .chunkTruncated
    else do
      let mark ← slice d size stop
      if mark = lineEnd then
        let chunk ← slice d 0 size
        let rest ← slice d stop d.length
        return .ok (chunk, rest)
      else return .error .chunkUnterminated

/-- The chunk at the front of a body and what follows it, or nothing at the last chunk. -/
def readChunk (d : Bytes) : Except Trap (Except ResponseFault (Option (Bytes × Bytes))) :=
  match Sequence.find? lineEnd d with
  | none => return .error .chunkSizeUnterminated
  | some place => do
    let line ← slice d 0 place
    match readSize line with
    | .error e => return .error e
    | .ok size =>
      let start ← add place lineEnd.length
      let rest ← slice d start d.length
      if size = 0 then return .ok none
      else
        let taken ← takeChunk size rest
        return taken.map some

/-- The body that chunks make behind what has been decoded, in up to `fuel` rounds. -/
def decode : (fuel : Nat) → (body d : Bytes) → Except Trap (Except ResponseFault Bytes)
  | 0, _, _ => .error .endless
  | fuel + 1, body, d => do
    match ← readChunk d with
    | .error e => return .error e
    | .ok none => return .ok body
    | .ok (some (chunk, rest)) => decode fuel (body ++ chunk) rest

end Guarded
end Chunked
end Http
end WebSocket
