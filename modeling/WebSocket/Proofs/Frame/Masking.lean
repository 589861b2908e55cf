import WebSocket.Frame.LengthForm

/-
Masking word by word is masking byte by byte.  A word keeps its four bytes apart in either byte
order (`unwordReversed_word`), so combining two words combines them byte with byte; and since the
key repeats after four bytes, what follows a word is masked as if it stood at the front
(`MaskKey.applyWords_agrees`).
-/
namespace WebSocket
namespace MaskKey

namespace ByteOrder

/-- Four bytes side by side in a word are found again at their places. -/
theorem toUInt8_shiftRight_or (x y z w : UInt8) :
    let v := x.toUInt32 ||| (y.toUInt32 <<< 8) ||| (z.toUInt32 <<< 16) ||| (w.toUInt32 <<< 24)
    v.toUInt8 = x ∧ (v >>> 8).toUInt8 = y ∧ (v >>> 16).toUInt8 = z ∧ (v >>> 24).toUInt8 = w := by
  intro v
  -- a bit of the word is a bit of one of the four, and of none of the others
  refine ⟨?_, ?_, ?_, ?_⟩ <;> apply UInt8.eq_of_toBitVec_eq <;> ext i hi <;> simp [v] <;> grind

theorem unwordReversed_word (order : ByteOrder) (a b c d : UInt8) :
    order.unwordReversed (order.word a b c d) = [d, c, b, a] := by
  cases order with
  | littleEndian =>
    obtain ⟨h0, h8, h16, h24⟩ := toUInt8_shiftRight_or a b c d
    simp only [unwordReversed, word, h0, h8, h16, h24]
  | bigEndian =>
    obtain ⟨h0, h8, h16, h24⟩ := toUInt8_shiftRight_or d c b a
    simp only [unwordReversed, word, h0, h8, h16, h24]

theorem toUInt8_shiftRight_xor (v w n : UInt32) :
    ((v ^^^ w) >>> n).toUInt8 = (v >>> n).toUInt8 ^^^ (w >>> n).toUInt8 := by
  apply UInt8.eq_of_toBitVec_eq
  ext i hi
  simp

theorem unwordReversed_xor (order : ByteOrder) (v w : UInt32) :
    order.unwordReversed (v ^^^ w) =
      List.zipWith (· ^^^ ·) (order.unwordReversed v) (order.unwordReversed w) := by
  cases order <;> simp [unwordReversed, toUInt8_shiftRight_xor]

end ByteOrder

theorem byteAt_eq_getD (key : MaskKey) (i : Nat) : key.byteAt i = key.bytes.getD (i % 4) 0 := by
  have hplace : i % 4 < 4 := Nat.mod_lt _ (by decide)
  unfold byteAt
  generalize i % 4 = place at hplace
  match place, hplace with
  | 0, _ => rfl
  | 1, _ => rfl
  | 2, _ => rfl
  | 3, _ => rfl

/-- Each byte is combined with the byte of the key whose turn it is. -/
theorem getElem?_apply (key : MaskKey) (payload : Bytes) (i : Nat) :
    (key.apply payload)[i]? = payload[i]?.map (· ^^^ key.bytes.getD (i % 4) 0) := by
  rw [apply, List.getElem?_mapIdx, byteAt_eq_getD]

theorem byteAt_add_four (key : MaskKey) (i : Nat) : key.byteAt (i + 4) = key.byteAt i := by
  rw [byteAt, byteAt, Nat.add_mod_right]

theorem apply_cons_four (key : MaskKey) (a b c d : UInt8) (rest : Bytes) :
    key.apply (a :: b :: c :: d :: rest) =
      [a ^^^ key.a, b ^^^ key.b, c ^^^ key.c, d ^^^ key.d] ++ key.apply rest := by
  simp only [apply, List.mapIdx_cons, Nat.add_assoc, byteAt_add_four]
  rfl

theorem applyWordsFrom_eq (order : ByteOrder) (key : MaskKey) : ∀ masked payload : Bytes,
    applyWordsFrom order key masked payload = masked.reverse ++ key.apply payload
  | masked, a :: b :: c :: d :: rest => by
    have hword : order.unwordReversed (order.word a b c d ^^^ order.word key.a key.b key.c key.d) =
        [d ^^^ key.d, c ^^^ key.c, b ^^^ key.b, a ^^^ key.a] := by
      rw [ByteOrder.unwordReversed_xor, ByteOrder.unwordReversed_word,
        ByteOrder.unwordReversed_word]
      rfl
    rw [applyWordsFrom, hword, applyWordsFrom_eq order key _ rest, apply_cons_four]
    simp
  | _, [] => rfl
  | _, [_] => rfl
  | _, [_, _] => rfl
  | _, [_, _, _] => rfl

/-- Whatever the byte order of the machine, masking in words masks each byte. -/
theorem applyWords_eq_apply (order : ByteOrder) (key : MaskKey) (payload : Bytes) :
    key.applyWords order payload = key.apply payload :=
  applyWordsFrom_eq order key [] payload

/-- On machines of either byte order, masking in words gives what masking byte by byte gives, where
the bytes of the key take turns; and doing it again, on any machine, gives back the payload. -/
theorem applyWords_agrees (order again : ByteOrder) (key : MaskKey) (payload : Bytes) :
    key.applyWords order payload = key.apply payload ∧
      (∀ i : Nat, (key.applyWords order payload)[i]? =
        payload[i]?.map (· ^^^ key.bytes.getD (i % 4) 0)) ∧
      key.applyWords again (key.applyWords order payload) = payload := by
  have hword : key.applyWords order payload = key.apply payload :=
    applyWords_eq_apply order key payload
  refine ⟨hword, fun i => ?_, ?_⟩
  · rw [hword, getElem?_apply]
  · rw [hword, applyWords_eq_apply, apply_apply]

end MaskKey

namespace Frame

/-- A payload from the wire has its mask taken off, whichever way that is done. -/
theorem payload_ofHeader (h : FrameHeader) (payload : Bytes) :
    (ofHeader h payload).payload = underKey h.key payload := by
  unfold ofHeader
  cases h.key with
  | none => rfl
  | some key => exact key.applyWords_eq_apply .littleEndian payload

/-- A payload that travelled under the key of its header is the payload of the frame. -/
theorem ofHeader_underKey (h : FrameHeader) (payload : Bytes) :
    ofHeader h (underKey h.key payload) =
      { fin := h.fin
        rsv1 := h.rsv1
        rsv2 := h.rsv2
        rsv3 := h.rsv3
        opcode := h.opcode
        masked := h.key.isSome
        payload } := by
  have hpayload := payload_ofHeader h (underKey h.key payload)
  rw [underKey_underKey] at hpayload
  exact congrArg (Frame.mk h.fin h.rsv1 h.rsv2 h.rsv3 h.opcode h.key.isSome) hpayload

end Frame
end WebSocket
