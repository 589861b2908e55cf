import WebSocket.Proofs.Frame.RoundTrip

/-
What is written of a frame reads back as the frame.  A client's form is the server's with the mask
bit set in the second byte, the key behind the length, and the payload masked
(`Frame.encodeMasked_eq_modify`); both read back, whatever follows them on the wire.  Written into a
buffer a frame takes the front of it, or nothing at all.
-/
namespace WebSocket
namespace Frame

/-! ## The client's form -/

/-- What is written before the payload of a frame. -/
def head (key : Option MaskKey) (f : Frame) : Bytes :=
  f.firstByte :: lengthBytes (flag key.isSome 0x80) f.payload.length ++
    (key.map MaskKey.bytes).getD []

theorem encode_eq (f : Frame) : f.encode = f.head none ++ f.payload := by
  simp [encode, head, flag]

theorem length_head (key : Option MaskKey) (f : Frame) :
    (f.head key).length =
      2 + extraLength f.payload.length + ((key.map MaskKey.bytes).getD []).length := by
  rw [head, List.length_append, List.length_cons, length_lengthBytes]
  omega

theorem take_encode (f : Frame) : f.encode.take (f.wireSize - f.payload.length) = f.head none := by
  have hlength : (f.head none).length = f.wireSize - f.payload.length := by
    rw [length_head, wireSize]
    simp
  rw [encode_eq, List.take_left' hlength]

theorem lengthBytes_mask (n : Nat) :
    lengthBytes 0x80 n = (lengthBytes 0 n).modify 0 (· ||| 0x80) := by
  have hor : ∀ b : UInt8, 0x80 ||| b = 0 ||| b ||| 0x80 := by
    intro b
    rw [UInt8.zero_or, UInt8.or_comm]
  unfold lengthBytes
  split
  · simp [hor]
  · split <;> rw [hor] <;> rfl

/-- A client sets the mask bit in what a server writes before the payload, puts the key behind it,
and masks the payload. -/
theorem encodeMasked_eq_modify (key : MaskKey) (f : Frame) :
    f.encodeMasked key = (f.encode.take (f.wireSize - f.payload.length)).modify 1 (· ||| 0x80) ++
      key.bytes ++ key.apply f.payload := by
  have hhead : (f.head none).modify 1 (· ||| 0x80) =
      f.firstByte :: lengthBytes 0x80 f.payload.length := by
    rw [lengthBytes_mask]
    simp [head, flag]
  rw [take_encode, hhead, encodeMasked]

/-- What a client writes reads back as the frame, with a mask, and takes the bytes written. -/
theorem decode_encodeMasked_append (key : MaskKey) (f : Frame)
    (h : f.payload.length < 0x8000000000000000) (t : Bytes) :
    decode (f.encodeMasked key ++ t) = .ok ({ f with masked := true }, f.wireSize + 4) := by
  have hsize : (f.encodeMasked key).length = f.wireSize + 4 := by
    simp [encodeMasked, length_lengthBytes, wireSize, MaskKey.bytes]
    omega
  rw [← hsize, encodeMasked_eq_encodeIn,
    decode_encodeIn_append _ (some key) f (LengthForm.holds_ofLength h)]
  rfl

/-! ## Buffers -/

/-- Writing fails in buffers that are too short, which stay as they were, and in no others. -/
theorem exists_write_eq_error_iff (f : Frame) (buffer : Bytes) :
    (∃ e, f.write buffer = (.error e, buffer)) ↔ buffer.length < f.wireSize := by
  constructor
  · rintro ⟨e, he⟩
    refine Nat.lt_of_not_le fun hle => ?_
    rw [write_of_le hle] at he
    cases he
  · intro hlt
    exact ⟨_, write_of_lt hlt⟩

theorem write_replicate (f : Frame) :
    f.write (List.replicate f.wireSize 0) = (.ok f.wireSize, f.encode) := by
  have hlength : (List.replicate f.wireSize (0 : UInt8)).length = f.wireSize :=
    List.length_replicate
  have hdrop : (List.replicate f.wireSize (0 : UInt8)).drop f.wireSize = [] :=
    List.drop_of_length_le (Nat.le_of_eq hlength)
  rw [write_of_le (Nat.le_of_eq hlength.symm), hdrop, List.append_nil]

/-- Whatever its flags, its kind and its payload, a frame reads back from what a server writes and
from what a client writes, with as many bytes as were written and whatever follows; taking the mask
off in words does the same.  In a buffer the frame takes the front and leaves the rest, or, if it
does not fit, leaves all of it; a buffer of just its size holds what a server writes. -/
theorem decode_written (f : Frame) (h : f.payload.length < 0x8000000000000000) (key : MaskKey)
    (t buffer : Bytes) :
    decode (f.encode ++ t) = .ok ({ f with masked := false }, f.wireSize) ∧
      (f.encodeMasked key =
          (f.encode.take (f.wireSize - f.payload.length)).modify 1 (· ||| 0x80) ++
            key.bytes ++ key.apply f.payload ∧
        decode (f.encodeMasked key ++ t) = .ok ({ f with masked := true }, f.wireSize + 4) ∧
        ∀ order, key.applyWords order (key.apply f.payload) = f.payload) ∧
      ((∃ e, f.write buffer = (.error e, buffer)) ↔ buffer.length < f.wireSize) ∧
      (f.wireSize ≤ buffer.length →
        f.write buffer = (.ok f.wireSize, f.encode ++ buffer.drop f.wireSize)) ∧
      f.write (List.replicate f.wireSize 0) = (.ok f.wireSize, f.encode) := by
  have hwords : ∀ order, key.applyWords order (key.apply f.payload) = f.payload := by
    intro order
    rw [MaskKey.applyWords_eq_apply, MaskKey.apply_apply]
  refine ⟨decode_encode_append f h t, ⟨encodeMasked_eq_modify key f, ?_, hwords⟩,
    exists_write_eq_error_iff f buffer, write_of_le, write_replicate f⟩
  exact decode_encodeMasked_append key f h t

/-- A ping that breaks several rules, with the shortest payload whose length takes two more bytes,
in front of another byte and in a buffer with one byte to spare. -/
theorem decode_written_ping :
    let f : Frame := { Frame.ping (List.replicate 126 0xAB) with fin := false, rsv2 := true }
    let key : MaskKey := ⟨0x37, 0xFA, 0x21, 0x3D⟩
    f.payload.length < 0x8000000000000000 ∧
      decode (f.encodeMasked key ++ [7]) = .ok ({ f with masked := true }, 134) ∧
      f.write (List.replicate 131 0xEE) = (.ok 130, f.encode ++ [0xEE]) := by
  intro f key
  have hlength : f.payload.length = 126 := List.length_replicate
  have hsize : f.wireSize = 130 := by rw [wireSize, hlength]; rfl
  have h : f.payload.length < 0x8000000000000000 := by rw [hlength]; decide
  obtain ⟨-, ⟨-, hmasked, -⟩, -, hwrite, -⟩ :=
    decode_written f h key [7] (List.replicate 131 0xEE)
  rw [hsize, List.length_replicate, List.drop_replicate] at hwrite
  rw [hsize] at hmasked
  exact ⟨h, hmasked, hwrite (by decide)⟩

end Frame
end WebSocket
