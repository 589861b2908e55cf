import WebSocket.Frame

/-
Reading a frame from the front of a byte string.  The header is read first, so that a frame can be
judged before its payload has arrived; a string that ends too early says how many bytes it lacks
at least.
-/
namespace WebSocket

/-- The header of a frame: all that precedes the payload. -/
structure FrameHeader where
  fin : Bool
  rsv1 : Bool
  rsv2 : Bool
  rsv3 : Bool
  opcode : Opcode
  key : Option MaskKey
  /-- The length of the payload that follows. -/
  length : Nat
  /-- The number of bytes of the header itself. -/
  size : Nat
deriving DecidableEq

namespace FrameHeader

/-- Whether one of the reserved bits is set. -/
def hasReserved (h : FrameHeader) : Bool :=
  h.rsv1 || h.rsv2 || h.rsv3

/-- How many bytes `d` lacks to hold `n`. -/
def missing (n : Nat) (d : Bytes) : Nat :=
  n - (d.take n).length

/-- Fails unless `d` holds `n` bytes. -/
def need (n : Nat) (d : Bytes) : Except Error Unit :=
  if missing n d = 0 then .ok () else .error (.incompleteFrame (missing n d))

/-- The length of the payload and where it is written up to, from the seven bits of the second
byte. -/
def readLength (bits : Nat) (d : Bytes) : Except Error (Nat × Nat) :=
  if bits = 126 then do
    need 4 d
    return (Bytes.toNat ((d.drop 2).take 2), 4)
  else if bits = 127 then do
    need 10 d
    let n := Bytes.toNat ((d.drop 2).take 8)
    if n ≥ 0x8000000000000000 then .error (.invalidFrame .lengthTopBit)
    else return (n, 10)
  else return (bits, 2)

/-- The key that follows the length of a masked payload, and where the header ends. -/
def readKey (masked : Bool) (position : Nat) (d : Bytes) :
    Except Error (Option MaskKey × Nat) :=
  if masked then do
    need (position + 4) d
    return (some (MaskKey.ofBytes ((d.drop position).take 4)), position + 4)
  else return (none, position)

/-- Whether a bit of a byte is set. -/
def bit (b mask : UInt8) : Bool :=
  b &&& mask != 0

/-- The header at the front of a byte string. -/
def decode (d : Bytes) : Except Error FrameHeader :=
  match d with
  | first :: second :: _ => do
    let opcode ← Opcode.ofValue (first &&& 0x0F).toNat
    let (length, position) ← readLength (second &&& 0x7F).toNat d
    let (key, size) ← readKey (bit second 0x80) position d
    return {
      fin := bit first 0x80
      rsv1 := bit first 0x40
      rsv2 := bit first 0x20
      rsv3 := bit first 0x10
      opcode := opcode
      key := key
      length := length
      size := size }
  | _ => .error (.incompleteFrame (2 - d.length))

/-! ## Sizes -/

theorem le_of_readLength {bits : Nat} {d : Bytes} {n position : Nat}
    (h : readLength bits d = .ok (n, position)) : 2 ≤ position := by
  unfold readLength at h
  split at h
  · cases hn : need 4 d with
    | error e => simp [hn, bind, Except.bind] at h
    | ok u =>
      simp only [hn, bind, Except.bind, pure, Except.pure, Except.ok.injEq, Prod.mk.injEq] at h
      omega
  · split at h
    · cases hn : need 10 d with
      | error e => simp [hn, bind, Except.bind] at h
      | ok u =>
        simp only [hn, bind, Except.bind, pure, Except.pure] at h
        split at h
        · simp at h
        · simp only [Except.ok.injEq, Prod.mk.injEq] at h
          omega
    · simp only [pure, Except.pure, Except.ok.injEq, Prod.mk.injEq] at h
      omega

theorem le_of_readKey {masked : Bool} {position : Nat} {d : Bytes} {key : Option MaskKey}
    {size : Nat} (h : readKey masked position d = .ok (key, size)) : position ≤ size := by
  unfold readKey at h
  split at h
  · cases hn : need (position + 4) d with
    | error e => simp [hn, bind, Except.bind] at h
    | ok u =>
      simp only [hn, bind, Except.bind, pure, Except.pure, Except.ok.injEq, Prod.mk.injEq] at h
      omega
  · simp only [pure, Except.pure, Except.ok.injEq, Prod.mk.injEq] at h
    omega

/-- A header takes at least two bytes. -/
theorem two_le_size {d : Bytes} {h : FrameHeader} (hd : decode d = .ok h) :
    2 ≤ h.size ∧ 2 ≤ d.length := by
  unfold decode at hd
  split at hd
  · rename_i first second rest
    simp only [bind, Except.bind, pure, Except.pure] at hd
    split at hd
    · simp at hd
    · split at hd
      · simp at hd
      · rename_i lp hl
        obtain ⟨length, position⟩ := lp
        split at hd
        · simp at hd
        · rename_i ks hk
          obtain ⟨key, size⟩ := ks
          have h1 := le_of_readLength hl
          have h2 := le_of_readKey hk
          simp only [Except.ok.injEq] at hd
          subst hd
          simp only [List.length_cons] at *
          omega
  · simp at hd

end FrameHeader

namespace Frame

/-- The frame that a header and its payload, taken from the wire, make.  A mask is taken off in words
of the machine, of which either byte order gives the same (`MaskKey.applyWords_eq_apply`). -/
def ofHeader (h : FrameHeader) (payload : Bytes) : Frame :=
  { fin := h.fin
    rsv1 := h.rsv1
    rsv2 := h.rsv2
    rsv3 := h.rsv3
    opcode := h.opcode
    masked := h.key.isSome
    payload := match h.key with
      | some key => key.applyWords .littleEndian payload
      | none => payload }

/-- The frame with the given header at the front of a byte string, and how many bytes it takes. -/
def decodeBody (h : FrameHeader) (d : Bytes) : Except Error (Frame × Nat) :=
  let payload := (d.drop h.size).take h.length
  if payload.length < h.length then
    .error (.incompleteFrame (h.length - payload.length))
  else .ok (ofHeader h payload, h.size + h.length)

/-- What follows a frame is shorter than what its header is read from. -/
theorem length_drop_lt_of_decodeBody {h : FrameHeader} {d : Bytes} {frame : Frame} {size : Nat}
    (hd : FrameHeader.decode d = .ok h) (hb : decodeBody h d = .ok (frame, size)) :
    (d.drop size).length < d.length := by
  have h2 := FrameHeader.two_le_size hd
  unfold decodeBody at hb
  simp only at hb
  split at hb
  · simp at hb
  · simp only [Except.ok.injEq, Prod.mk.injEq] at hb
    simp only [List.length_drop]
    omega

/-- The frame at the front of a byte string, and how many bytes it takes. -/
def decode (d : Bytes) : Except Error (Frame × Nat) := do
  let h ← FrameHeader.decode d
  decodeBody h d

/-- What follows a frame is shorter than what it is read from. -/
theorem length_drop_lt_of_decode {d : Bytes} {frame : Frame} {size : Nat}
    (h : decode d = .ok (frame, size)) : (d.drop size).length < d.length := by
  unfold decode at h
  cases hd : FrameHeader.decode d with
  | error e => simp [hd, bind, Except.bind] at h
  | ok header =>
    simp only [hd, bind, Except.bind] at h
    exact length_drop_lt_of_decodeBody hd h

/-- The frames at the front of a byte string behind those in `found`, which stand latest first and
take `offset` bytes. -/
def decodeFrom (found : List (Frame × Nat)) (offset : Nat) (d : Bytes) :
    List (Frame × Nat) × Nat × Error :=
  match _h : decode d with
  | .ok (frame, size) => decodeFrom ((frame, size) :: found) (offset + size) (d.drop size)
  | .error e => (found.reverse, offset, e)
termination_by d.length
decreasing_by exact length_drop_lt_of_decode _h

/-- The frames at the front of a byte string, each with the number of bytes it takes, how many
bytes they take together, and the error that ends them. -/
def decodeAll (d : Bytes) : List (Frame × Nat) × Nat × Error :=
  decodeFrom [] 0 d

end Frame
end WebSocket
