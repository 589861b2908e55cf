import WebSocket.Error
import WebSocket.Http.Head
import WebSocket.Text
import WebSocket.Text.Numeral

/-
The chunked form of a body: chunks that each state their size in hexadecimal on a line of their
own, up to one of size zero.  What follows a semicolon on that line counts for nothing, nor does
what follows the last chunk.  Every chunk that is read leaves less to read
(`length_lt_of_readChunk`), which is why decoding ends.
-/
namespace WebSocket
namespace Http
namespace Chunked

/-- The size that a size line states. -/
def readSize (line : Bytes) : Except ResponseFault Nat :=
  match Bytes.text? line with
  | none => .error .chunkSizeNotText
  | some text =>
    let numeral := Text.trim ((Text.pieces ";" text).headD "")
    match Text.number? 16 Text.bound64 numeral with
    | some size => .ok size
    | none => .error (.chunkSize numeral)

/-- The bytes of a chunk of the given size, and what follows the line end behind it.  A chunk that
is cut short has no room for its line end. -/
def takeChunk (size : Nat) (d : Bytes) : Except ResponseFault (Bytes × Bytes) :=
  if size + lineEnd.length ≥ Text.bound64 then .error .chunkSizeTooLarge
  else
    let (chunk, tail) := d.splitAt size
    let (mark, rest) := tail.splitAt lineEnd.length
    if mark.length < lineEnd.length then .error .chunkTruncated
    else if mark = lineEnd then .ok (chunk, rest)
    else .error .chunkUnterminated

/-- The chunk at the front of a body and what follows it, or nothing at the last chunk. -/
def readChunk (d : Bytes) : Except ResponseFault (Option (Bytes × Bytes)) :=
  match Sequence.cut? lineEnd d with
  | none => .error .chunkSizeUnterminated
  | some (line, rest) =>
    match readSize line with
    | .error e => .error e
    | .ok size => if size = 0 then .ok none else (takeChunk size rest).map some

theorem length_le_of_takeChunk {size : Nat} {d chunk rest : Bytes}
    (h : takeChunk size d = .ok (chunk, rest)) : rest.length ≤ d.length := by
  unfold takeChunk at h
  split at h
  · simp at h
  · simp only [List.splitAt_eq] at h
    split at h
    · simp at h
    · split at h
      · simp only [Except.ok.injEq, Prod.mk.injEq] at h
        obtain ⟨-, rfl⟩ := h
        simp only [List.length_drop]
        omega
      · simp at h

/-- A chunk takes at least the end of its size line. -/
theorem length_lt_of_readChunk {d chunk rest : Bytes}
    (h : readChunk d = .ok (some (chunk, rest))) : rest.length < d.length := by
  unfold readChunk Sequence.cut? at h
  cases hf : Sequence.find? lineEnd d with
  | none => simp [hf] at h
  | some i =>
    have hi := Sequence.find?_add_length_le hf
    simp only [hf, Option.map_some] at h
    split at h
    · simp at h
    · split at h
      · simp at h
      · rename_i size _ _
        cases ht : takeChunk size (d.drop (i + lineEnd.length)) with
        | error e => simp [ht, Except.map] at h
        | ok p =>
          simp only [ht, Except.map, Except.ok.injEq, Option.some.injEq] at h
          subst h
          have := length_le_of_takeChunk ht
          simp only [List.length_drop] at this
          simp only [lineEnd, List.length_cons, List.length_nil] at *
          omega

/-- The chunks of a body, behind those in `found`, which stand latest first. -/
def decodeFrom (found : List Bytes) (d : Bytes) : Except ResponseFault (List Bytes) :=
  match _h : readChunk d with
  | .error e => .error e
  | .ok none => .ok found.reverse
  | .ok (some (chunk, rest)) => decodeFrom (chunk :: found) rest
termination_by d.length
decreasing_by exact length_lt_of_readChunk _h

/-- The body that its chunked form stands for. -/
def decode (d : Bytes) : Except ResponseFault Bytes :=
  (decodeFrom [] d).map List.flatten

end Chunked
end Http
end WebSocket
