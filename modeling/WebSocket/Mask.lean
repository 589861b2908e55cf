import WebSocket.Bytes

/-
Masking: a payload combined with a key of four bytes that repeats along it.  The same key takes
the mask off again.  The combination is defined byte by byte, and a second time word by word in
either byte order.
-/
namespace WebSocket

/-- A masking key. -/
structure MaskKey where
  a : UInt8
  b : UInt8
  c : UInt8
  d : UInt8
deriving DecidableEq

namespace MaskKey

/-- The four bytes of a key. -/
def bytes (key : MaskKey) : Bytes :=
  [key.a, key.b, key.c, key.d]

/-- The key that the first four bytes form, where missing ones are zero. -/
def ofBytes (b : Bytes) : MaskKey :=
  ⟨b.getD 0 0, b.getD 1 0, b.getD 2 0, b.getD 3 0⟩

@[simp] theorem ofBytes_bytes (key : MaskKey) : ofBytes key.bytes = key := rfl

/-- The byte of a key that falls on the payload byte of index `i`. -/
def byteAt (key : MaskKey) (i : Nat) : UInt8 :=
  match i % 4 with
  | 0 => key.a
  | 1 => key.b
  | 2 => key.c
  | _ => key.d

/-- A payload with its mask put on, or taken off. -/
def apply (key : MaskKey) (payload : Bytes) : Bytes :=
  payload.mapIdx fun i x => x ^^^ key.byteAt i

@[simp] theorem length_apply (key : MaskKey) (payload : Bytes) :
    (key.apply payload).length = payload.length := by
  simp [apply]

/-- A mask put on twice is gone. -/
@[simp] theorem apply_apply (key : MaskKey) (payload : Bytes) :
    key.apply (key.apply payload) = payload := by
  refine List.ext_getElem (by rw [length_apply, length_apply]) fun i _ _ => ?_
  simp only [apply, List.getElem_mapIdx, UInt8.xor_assoc, UInt8.xor_self, UInt8.xor_zero]

/-! ## Words -/

/-- The orders in which a machine keeps the bytes of a word. -/
inductive ByteOrder
  | littleEndian
  | bigEndian
deriving DecidableEq

namespace ByteOrder

/-- The word that four bytes in memory form. -/
def word (order : ByteOrder) (a b c d : UInt8) : UInt32 :=
  match order with
  | .littleEndian =>
    a.toUInt32 ||| (b.toUInt32 <<< 8) ||| (c.toUInt32 <<< 16) ||| (d.toUInt32 <<< 24)
  | .bigEndian =>
    d.toUInt32 ||| (c.toUInt32 <<< 8) ||| (b.toUInt32 <<< 16) ||| (a.toUInt32 <<< 24)

/-- The four bytes of a word as memory holds them, last one first. -/
def unwordReversed (order : ByteOrder) (w : UInt32) : Bytes :=
  match order with
  | .littleEndian =>
    [(w >>> 24).toUInt8, (w >>> 16).toUInt8, (w >>> 8).toUInt8, w.toUInt8]
  | .bigEndian =>
    [w.toUInt8, (w >>> 8).toUInt8, (w >>> 16).toUInt8, (w >>> 24).toUInt8]

end ByteOrder

/-- The payload masked in whole words, behind the masked bytes in reverse.  Fewer than four bytes
at the end are masked one by one. -/
def applyWordsFrom (order : ByteOrder) (key : MaskKey) (masked : Bytes) : Bytes → Bytes
  | a :: b :: c :: d :: rest =>
    let w := order.word a b c d ^^^ order.word key.a key.b key.c key.d
    applyWordsFrom order key (order.unwordReversed w ++ masked) rest
  | rest => masked.reverse ++ key.apply rest

/-- A payload masked four bytes at a time. -/
def applyWords (order : ByteOrder) (key : MaskKey) (payload : Bytes) : Bytes :=
  applyWordsFrom order key [] payload

end MaskKey
end WebSocket
