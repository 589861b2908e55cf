import WebSocket.Proofs.Frame.Masking
import WebSocket.Proofs.Frame.Prefix

/-
Reading a frame undoes writing it, whatever follows on the wire.  A frame is written with a key or
without one, and its length in one of three forms; the header reads back as what was written
(`FrameHeader.decode_headIn`), and so does the frame (`Frame.decode_encodeIn_append`), whichever of
them was chosen.  Only a payload of 2 ^ 63 bytes or more would not come back, as its length takes
the bit that has to be clear.
-/
namespace WebSocket
namespace Frame

/-! ## Written headers -/

/-- The first byte holds the flags and the operation code apart. -/
theorem firstByte_bits (f : Frame) :
    f.firstByte &&& 0x0F = f.opcode.value ∧ FrameHeader.bit f.firstByte 0x80 = f.fin ∧
      FrameHeader.bit f.firstByte 0x40 = f.rsv1 ∧ FrameHeader.bit f.firstByte 0x20 = f.rsv2 ∧
        FrameHeader.bit f.firstByte 0x10 = f.rsv3 := by
  obtain ⟨fin, rsv1, rsv2, rsv3, opcode, masked, payload⟩ := f
  simp only [firstByte]
  cases fin <;> cases rsv1 <;> cases rsv2 <;> cases rsv3 <;> cases opcode <;> decide

/-- The second byte holds the mask bit and seven bits apart. -/
theorem secondByte_bits (masked : Bool) :
    ∀ n < 128, ((flag masked 0x80 ||| UInt8.ofNat n) &&& 0x7F).toNat = n ∧
      FrameHeader.bit (flag masked 0x80 ||| UInt8.ofNat n) 0x80 = masked := by
  cases masked <;> decide +kernel

end Frame

namespace FrameHeader

/-! ## Reading what was written -/

/-- A number written behind two bytes is read back. -/
theorem toNat_take_drop (first second : UInt8) (width n : Nat) (t : Bytes)
    (h : n < Bytes.place width) :
    Bytes.toNat (((first :: second :: (Bytes.ofNat width n ++ t)).drop 2).take width) = n := by
  rw [List.drop_succ_cons, List.drop_succ_cons, List.drop_zero,
    List.take_left' (Bytes.length_ofNat width n), Bytes.toNat_ofNat, Nat.mod_eq_of_lt h]

theorem readLength_two {n : Nat} (h : n ≤ 0xFFFF) (first second : UInt8) (t : Bytes) :
    readLength 126 (first :: second :: (Bytes.ofNat 2 n ++ t)) = .ok (n, 4) := by
  have hplace : n < Bytes.place 2 := Nat.lt_succ_of_le h
  rw [readLength, if_pos rfl, need_eq, if_pos (by simp), toNat_take_drop _ _ 2 n t hplace]
  rfl

theorem readLength_eight {n : Nat} (h : n < 0x8000000000000000) (first second : UInt8) (t : Bytes) :
    readLength 127 (first :: second :: (Bytes.ofNat 8 n ++ t)) = .ok (n, 10) := by
  have hplace : n < Bytes.place 8 := Nat.lt_trans h (by decide)
  rw [readLength, if_neg (by decide), if_pos rfl, need_eq, if_pos (by simp),
    toNat_take_drop _ _ 8 n t hplace]
  show (if n ≥ 0x8000000000000000 then _ else _) = _
  rw [if_neg (by omega)]
  rfl

/-- A length is read back from each form that can write it, with the mask bit beside it. -/
theorem readLength_bytes (form : LengthForm) (masked : Bool) {n : Nat} (h : form.Holds n)
    (first : UInt8) (t : Bytes) :
    let second := Frame.flag masked 0x80 ||| UInt8.ofNat (form.bits n)
    bit second 0x80 = masked ∧
      readLength (second &&& 0x7F).toNat (first :: second :: (Bytes.ofNat form.width n ++ t)) =
        .ok (n, 2 + form.width) := by
  intro second
  have hlt : form.bits n < 128 := by
    cases form with
    | seven => exact Nat.lt_of_le_of_lt h (by decide)
    | two => exact (by decide : 126 < 128)
    | eight => exact (by decide : 127 < 128)
  obtain ⟨hbits, hmask⟩ := Frame.secondByte_bits masked (form.bits n) hlt
  refine ⟨hmask, ?_⟩
  rw [hbits]
  cases form with
  | seven =>
    have hn : n ≤ 125 := h
    show readLength n _ = _
    rw [readLength, if_neg (by omega), if_neg (by omega)]
    rfl
  | two => exact readLength_two h ..
  | eight => exact readLength_eight h ..

/-- A key behind the length is read back. -/
theorem readKey_append_bytes (key : Option MaskKey) {position : Nat} {d t : Bytes}
    (hd : d.length = position) :
    readKey key.isSome position (d ++ ((key.map MaskKey.bytes).getD [] ++ t)) =
      .ok (key, position + ((key.map MaskKey.bytes).getD []).length) := by
  cases key with
  | none => rfl
  | some key =>
    show (need (position + 4) _ >>= _) = _
    rw [need_eq, if_pos (by simp [MaskKey.bytes]; omega)]
    show Except.ok (some (MaskKey.ofBytes ((_ : Bytes).take 4)), position + 4) = _
    rw [List.drop_left' hd, Option.map_some, Option.getD_some,
      List.take_left' (show key.bytes.length = 4 from rfl)]
    rfl

/-- The header of a frame is read back from each form of its length, whatever follows it. -/
theorem decode_headIn (form : LengthForm) (key : Option MaskKey) (f : Frame)
    (h : form.Holds f.payload.length) (t : Bytes) :
    decode (f.headIn form key ++ t) =
      .ok { fin := f.fin
            rsv1 := f.rsv1
            rsv2 := f.rsv2
            rsv3 := f.rsv3
            opcode := f.opcode
            key := key
            length := f.payload.length
            size := (f.headIn form key).length } := by
  obtain ⟨hopcode, hfin, hrsv1, hrsv2, hrsv3⟩ := Frame.firstByte_bits f
  obtain ⟨hmask, hlength⟩ := readLength_bytes form key.isSome h f.firstByte
    ((key.map MaskKey.bytes).getD [] ++ t)
  have hsize : (f.firstByte ::
      form.bytes (Frame.flag key.isSome 0x80) f.payload.length).length = 2 + form.width := by
    rw [List.length_cons, LengthForm.length_bytes]
    omega
  have hwire : f.headIn form key ++ t =
      f.firstByte :: form.bytes (Frame.flag key.isSome 0x80) f.payload.length ++
        ((key.map MaskKey.bytes).getD [] ++ t) := by
    rw [Frame.headIn, List.append_assoc]
  rw [hwire, LengthForm.bytes, List.cons_append, List.cons_append, decode, hopcode,
    Opcode.ofValue_value]
  show (readLength _ _ >>= _) = _
  rw [hlength]
  show (readKey _ _ _ >>= _) = _
  rw [hmask, ← List.cons_append, ← List.cons_append, ← LengthForm.bytes,
    readKey_append_bytes key hsize]
  rw [Frame.length_headIn, ← hfin, ← hrsv1, ← hrsv2, ← hrsv3]
  rfl

end FrameHeader

namespace Frame

/-! ## Frames -/

/-- A payload behind its header is read with it. -/
theorem decodeBody_of_head {h : FrameHeader} {d payload : Bytes} (hd : d.length = h.size)
    (hp : payload.length = h.length) (t : Bytes) :
    decodeBody h (d ++ payload ++ t) = .ok (ofHeader h payload, (d ++ payload).length) := by
  unfold decodeBody
  rw [List.append_assoc, List.drop_left' hd, List.take_left' hp, if_neg (by omega),
    List.length_append, hd, hp]

/-- A frame reads back from its bytes in each form, and takes just these. -/
theorem decode_encodeIn_append (form : LengthForm) (key : Option MaskKey) (f : Frame)
    (h : form.Holds f.payload.length) (t : Bytes) :
    decode (f.encodeIn form key ++ t) =
      .ok ({ f with masked := key.isSome }, (f.encodeIn form key).length) := by
  rw [encodeIn, decode, List.append_assoc, FrameHeader.decode_headIn form key f h]
  show decodeBody _ _ = _
  rw [← List.append_assoc, decodeBody_of_head rfl (length_underKey key f.payload)]
  exact congrArg (fun frame => Except.ok (frame, _)) (ofHeader_underKey _ f.payload)

/-- What a server writes reads back as the frame, without a mask, and takes the bytes written. -/
theorem decode_encode_append (f : Frame) (h : f.payload.length < 0x8000000000000000) (t : Bytes) :
    decode (f.encode ++ t) = .ok ({ f with masked := false }, f.wireSize) := by
  rw [← length_encode, encode_eq_encodeIn,
    decode_encodeIn_append _ none f (LengthForm.holds_ofLength h)]
  rfl

end Frame
end WebSocket
