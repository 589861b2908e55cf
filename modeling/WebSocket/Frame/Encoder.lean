import WebSocket.Frame

/-
The written form of a frame: a byte of flags and operation code, the length of the payload in
the shortest of three forms, the key if the frame is masked, and the payload.  A server never
masks; the form that a client writes stands beside the server's.
-/
namespace WebSocket
namespace Frame

/-- A flag at its place in a byte. -/
def flag (set : Bool) (bit : UInt8) : UInt8 :=
  if set then bit else 0

/-- The first byte: the final bit, the three reserved bits and the operation code. -/
def firstByte (f : Frame) : UInt8 :=
  flag f.fin 0x80 ||| flag f.rsv1 0x40 ||| flag f.rsv2 0x20 ||| flag f.rsv3 0x10 |||
    f.opcode.value

/-- The length of a payload: up to 125 in seven bits, below 65536 in two bytes, else in eight.
The first byte carries the mask bit as well. -/
def lengthBytes (maskBit : UInt8) (n : Nat) : Bytes :=
  if n ≤ 125 then [maskBit ||| UInt8.ofNat n]
  else if n ≤ 0xFFFF then (maskBit ||| 126) :: Bytes.ofNat 2 n
  else (maskBit ||| 127) :: Bytes.ofNat 8 n

/-- The bytes of a frame as a server sends it. -/
def encode (f : Frame) : Bytes :=
  f.firstByte :: lengthBytes 0 f.payload.length ++ f.payload

/-- The bytes of a frame as a client sends it, masked with the given key. -/
def encodeMasked (key : MaskKey) (f : Frame) : Bytes :=
  f.firstByte :: lengthBytes 0x80 f.payload.length ++ key.bytes ++ key.apply f.payload

/-- How many bytes the length of a payload takes beyond the second byte of the frame. -/
def extraLength (n : Nat) : Nat :=
  if n ≤ 125 then 0 else if n ≤ 0xFFFF then 2 else 8

/-- How many bytes a frame takes as a server sends it. -/
def wireSize (f : Frame) : Nat :=
  2 + extraLength f.payload.length + f.payload.length

theorem length_lengthBytes (maskBit : UInt8) (n : Nat) :
    (lengthBytes maskBit n).length = 1 + extraLength n := by
  unfold lengthBytes extraLength
  split
  · rfl
  · split <;> simp [Nat.add_comm]

/-- The size of a frame is the number of its bytes. -/
@[simp] theorem length_encode (f : Frame) : f.encode.length = f.wireSize := by
  simp [encode, wireSize, length_lengthBytes]
  omega

/-! ## Buffers -/

/-- Writes the length of a payload behind the first byte of a buffer: where the payload begins, and
the buffer afterwards. -/
def writeLength (n : Nat) (buffer : Bytes) : Nat × Bytes :=
  if n ≤ 125 then (2, buffer.set 1 (UInt8.ofNat n))
  else if n ≤ 0xFFFF then (4, Bytes.overwrite 2 (Bytes.ofNat 2 n) (buffer.set 1 126))
  else (10, Bytes.overwrite 2 (Bytes.ofNat 8 n) (buffer.set 1 127))

/-- Writes a frame into a buffer, each part at its place: how many bytes it took, and the buffer
afterwards.  A buffer that is too short is refused and stays as it was. -/
def write (f : Frame) (buffer : Bytes) : Except Error Nat × Bytes :=
  if buffer.length < f.wireSize then
    (.error (.invalidFrame (.shortBuffer f.wireSize buffer.length)), buffer)
  else
    let (position, buffer) := writeLength f.payload.length (buffer.set 0 f.firstByte)
    (.ok f.wireSize, Bytes.overwrite position f.payload buffer)

/-- How many bytes a frame takes in a buffer, and the buffer with the frame in it. -/
def writeInto (f : Frame) (buffer : Bytes) : Except Error (Nat × Bytes) :=
  match f.write buffer with
  | (.ok size, buffer) => .ok (size, buffer)
  | (.error e, _) => .error e

/-- The length stands behind the first byte as it does on the wire. -/
theorem writeLength_cons (n : Nat) (first second : UInt8) (rest : Bytes) :
    writeLength n (first :: second :: rest) =
      (2 + extraLength n, first :: lengthBytes 0 n ++ rest.drop (extraLength n)) := by
  unfold writeLength lengthBytes extraLength
  by_cases h1 : n ≤ 125
  · simp [h1]
  · by_cases h2 : n ≤ 0xFFFF
    · have hover :=
        Bytes.overwrite_append (show [first, 126].length = 2 from rfl) (Bytes.ofNat 2 n) rest
      simp only [Bytes.length_ofNat] at hover
      simpa [h1, h2] using hover
    · have hover :=
        Bytes.overwrite_append (show [first, 127].length = 2 from rfl) (Bytes.ofNat 8 n) rest
      simp only [Bytes.length_ofNat] at hover
      simpa [h1, h2] using hover

/-- A frame that fits is written at the front, and every byte behind it stays as it was. -/
theorem write_of_le {f : Frame} {buffer : Bytes} (h : f.wireSize ≤ buffer.length) :
    f.write buffer = (.ok f.wireSize, f.encode ++ buffer.drop f.wireSize) := by
  have hsize : f.wireSize = 2 + extraLength f.payload.length + f.payload.length := rfl
  match buffer with
  | [] => simp at h; omega
  | [_] => simp at h; omega
  | first :: second :: rest =>
    have hfront : (f.firstByte :: lengthBytes 0 f.payload.length).length =
        2 + extraLength f.payload.length := by
      rw [List.length_cons, length_lengthBytes]
      omega
    have hdrop : (first :: second :: rest).drop f.wireSize =
        (rest.drop (extraLength f.payload.length)).drop f.payload.length := by
      rw [List.drop_drop, hsize, Nat.add_assoc, Nat.add_comm 2]
      rfl
    have hset : (first :: second :: rest).set 0 f.firstByte = f.firstByte :: second :: rest := rfl
    rw [write, if_neg (Nat.not_lt_of_le h), hset, writeLength_cons]
    simp only
    rw [Bytes.overwrite_append hfront, hdrop, encode]

theorem write_of_lt {f : Frame} {buffer : Bytes} (h : buffer.length < f.wireSize) :
    f.write buffer =
      (.error (.invalidFrame (.shortBuffer f.wireSize buffer.length)), buffer) := by
  rw [write, if_pos h]

end Frame
end WebSocket
