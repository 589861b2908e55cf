import WebSocket.Proofs.Frame.RoundTrip

/-
What a reader takes for a frame is the frame in one of its forms.  Each part of a header is traced
back to the bytes that it was read from: the flags and the operation code to the first byte, the
length to a form that can write it (`FrameHeader.exists_form_of_readLength`), the key to its four
bytes.  A reader does not mind which form it is, so the bytes are those that a server or a client
writes if the form is the shortest, and not otherwise (`Frame.decode_eq_ok_iff_encodeIn`).
-/
namespace WebSocket

namespace Frame

/-- A first byte is made of its bits. -/
theorem firstByte_of_bits : ∀ n < 256,
    let b := UInt8.ofNat n
    flag (FrameHeader.bit b 0x80) 0x80 ||| flag (FrameHeader.bit b 0x40) 0x40 |||
      flag (FrameHeader.bit b 0x20) 0x20 ||| flag (FrameHeader.bit b 0x10) 0x10 |||
        (b &&& 0x0F) = b := by
  decide +kernel

/-- A second byte is made of the mask bit and the seven bits behind it. -/
theorem secondByte_of_bits : ∀ n < 256,
    let b := UInt8.ofNat n
    flag (FrameHeader.bit b 0x80) 0x80 ||| UInt8.ofNat (b &&& 0x7F).toNat = b ∧
      (b &&& 0x7F).toNat < 128 := by
  decide +kernel

end Frame

namespace FrameHeader

/-! ## The parts of a header -/

theorem flags_of_decode {first second : UInt8} {rest : Bytes} {h : FrameHeader}
    (hd : decode (first :: second :: rest) = .ok h) :
    h.fin = bit first 0x80 ∧ h.rsv1 = bit first 0x40 ∧ h.rsv2 = bit first 0x20 ∧
      h.rsv3 = bit first 0x10 ∧ Opcode.ofValue (first &&& 0x0F).toNat = .ok h.opcode := by
  simp only [decode, bind, Except.bind, pure, Except.pure] at hd
  split at hd
  · cases hd
  · rename_i ho
    split at hd
    · cases hd
    · split at hd
      · cases hd
      · cases hd
        exact ⟨rfl, rfl, rfl, rfl, ho⟩

/-- The first byte is that of every frame with the header. -/
theorem firstByte_ofHeader {first second : UInt8} {rest : Bytes} {h : FrameHeader}
    (hd : decode (first :: second :: rest) = .ok h) (payload : Bytes) :
    (Frame.ofHeader h payload).firstByte = first := by
  obtain ⟨hfin, hrsv1, hrsv2, hrsv3, ho⟩ := flags_of_decode hd
  have hopcode : h.opcode.value = first &&& 0x0F :=
    UInt8.toNat_inj.mp (Opcode.value_of_ofValue ho)
  have hbits := Frame.firstByte_of_bits first.toNat first.toNat_lt
  rw [UInt8.ofNat_toNat] at hbits
  simp only [Frame.firstByte, Frame.ofHeader, hfin, hrsv1, hrsv2, hrsv3, hopcode]
  exact hbits

/-- The bytes that write a number are found behind the first two. -/
theorem ofNat_take (rest : Bytes) {width : Nat} (h : width ≤ rest.length) :
    Bytes.ofNat width (Bytes.toNat (rest.take width)) = rest.take width := by
  have hlength : (rest.take width).length = width := List.length_take_of_le h
  have hbytes := Bytes.ofNat_toNat (rest.take width)
  rwa [hlength] at hbytes

/-- A length that has been read is written by one of its forms where it was read. -/
theorem exists_form_of_readLength {first second : UInt8} {rest : Bytes} {n position : Nat}
    (h : readLength (second &&& 0x7F).toNat (first :: second :: rest) = .ok (n, position)) :
    ∃ form : LengthForm, form.Holds n ∧ position = 2 + form.width ∧ form.width ≤ rest.length ∧
      form.bytes (Frame.flag (bit second 0x80) 0x80) n = second :: rest.take form.width := by
  have hbits := Frame.secondByte_of_bits second.toNat second.toNat_lt
  rw [UInt8.ofNat_toNat] at hbits
  obtain ⟨hsecond, hlt⟩ := hbits
  unfold readLength at h
  simp only [need_eq, List.length_cons, List.drop_succ_cons, List.drop_zero] at h
  by_cases h6 : (second &&& 0x7F).toNat = 126
  · simp only [h6, if_true] at h
    rw [h6] at hsecond
    split at h
    · rename_i hl
      cases h
      have hwidth : 2 ≤ rest.length := by omega
      refine ⟨.two, ?_, rfl, hwidth, ?_⟩
      · have hplace := Bytes.toNat_lt (rest.take 2)
        rw [List.length_take_of_le hwidth] at hplace
        exact Nat.le_of_lt_succ hplace
      · rw [LengthForm.bytes]
        show (_ ||| UInt8.ofNat 126) :: Bytes.ofNat 2 _ = second :: rest.take 2
        rw [hsecond, ofNat_take rest hwidth]
    · cases h
  · simp only [h6, if_false] at h
    by_cases h7 : (second &&& 0x7F).toNat = 127
    · simp only [h7, if_true] at h
      rw [h7] at hsecond
      split at h
      · rename_i hl
        simp only [bind, Except.bind] at h
        split at h
        · cases h
        · rename_i htop
          cases h
          have hwidth : 8 ≤ rest.length := by omega
          refine ⟨.eight, Nat.lt_of_not_le htop, rfl, hwidth, ?_⟩
          rw [LengthForm.bytes]
          show (_ ||| UInt8.ofNat 127) :: Bytes.ofNat 8 _ = second :: rest.take 8
          rw [hsecond, ofNat_take rest hwidth]
      · cases h
    · simp only [h7, if_false] at h
      cases h
      refine ⟨.seven, (by omega : _ ≤ 125), rfl, Nat.zero_le _, ?_⟩
      rw [LengthForm.bytes]
      show [_ ||| UInt8.ofNat (second &&& 0x7F).toNat] = [second]
      rw [hsecond]

/-- A key that has been read stands where the length ends. -/
theorem bytes_of_readKey {masked : Bool} {position size : Nat} {d : Bytes}
    {key : Option MaskKey} (h : readKey masked position d = .ok (key, size)) :
    key.isSome = masked ∧ size = position + ((key.map MaskKey.bytes).getD []).length ∧
      (d.drop position).take ((key.map MaskKey.bytes).getD []).length =
        (key.map MaskKey.bytes).getD [] := by
  unfold readKey at h
  cases masked with
  | false =>
    cases h
    exact ⟨rfl, rfl, rfl⟩
  | true =>
    simp only [if_true, need_eq] at h
    split at h
    · rename_i hl
      cases h
      refine ⟨rfl, rfl, ?_⟩
      have hfour : ((d.drop position).take 4).length = 4 :=
        List.length_take_of_le (by rw [List.length_drop]; omega)
      match (d.drop position).take 4, hfour with
      | [_, _, _, _], _ => rfl
    · cases h

/-- The bytes of a header are what stands before the payload of each frame with the header. -/
theorem take_of_decode {d : Bytes} {h : FrameHeader} (hd : decode d = .ok h) :
    ∃ form : LengthForm, form.Holds h.length ∧ ∀ payload : Bytes, payload.length = h.length →
      d.take h.size = (Frame.ofHeader h payload).headIn form h.key := by
  match d with
  | [] => cases hd
  | [_] => cases hd
  | first :: second :: rest =>
    obtain ⟨opcode, position, -, hl, hk⟩ := decode_eq_ok hd
    obtain ⟨form, hholds, rfl, -, hbytes⟩ := exists_form_of_readLength hl
    obtain ⟨hmask, hsize, hkey⟩ := bytes_of_readKey hk
    refine ⟨form, hholds, fun payload hpayload => ?_⟩
    have hlength : (Frame.ofHeader h payload).payload.length = h.length := by
      rw [Frame.payload_ofHeader, Frame.length_underKey, hpayload]
    have hfront : (first :: second :: rest).take (2 + form.width) =
        first :: second :: rest.take form.width := by
      rw [Nat.add_comm]
      rfl
    rw [Frame.headIn, firstByte_ofHeader hd, hlength, hmask, hbytes, hsize, List.take_add, hkey,
      hfront]

end FrameHeader

namespace Frame

/-! ## Frames -/

/-- The bytes that are read as a frame are the frame in one of its forms. -/
theorem exists_encodeIn_of_decode {d : Bytes} {f : Frame} {n : Nat} (h : decode d = .ok (f, n)) :
    ∃ form key, form.Holds f.payload.length ∧ key.isSome = f.masked ∧
      d.take n = f.encodeIn form key := by
  obtain ⟨header, hd, hb⟩ := decode_eq_ok_iff.mp h
  obtain ⟨hle, rfl, rfl⟩ := (decodeBody_eq_ok_iff (FrameHeader.size_le_length hd)).mp hb
  obtain ⟨form, hholds, hhead⟩ := FrameHeader.take_of_decode hd
  have hlength : ((d.drop header.size).take header.length).length = header.length := by
    rw [length_payload]
    omega
  refine ⟨form, header.key, ?_, rfl, ?_⟩
  · rw [payload_ofHeader, length_underKey, hlength]
    exact hholds
  · rw [encodeIn, payload_ofHeader, underKey_underKey, ← hhead _ hlength, ← List.take_add]

/-- The forms of a frame differ. -/
theorem encodeIn_inj {f : Frame} {form other : LengthForm} {key : Option MaskKey} :
    f.encodeIn form key = f.encodeIn other key ↔ form = other := by
  refine ⟨fun h => LengthForm.width_injective ?_, fun h => h ▸ rfl⟩
  have hlength := congrArg List.length h
  rw [length_encodeIn, length_encodeIn] at hlength
  omega

/-- A byte string is read as a frame of `n` bytes just when its first `n` bytes are the frame in a
form that can write the length of the payload, under a key if the frame is masked.  These are the
bytes that a server writes, or a client under the key, just when no form takes fewer. -/
theorem decode_eq_ok_iff_encodeIn (d : Bytes) (f : Frame) (n : Nat) :
    (decode d = .ok (f, n) ↔
      ∃ (form : LengthForm) (key : Option MaskKey), form.Holds f.payload.length ∧
        key.isSome = f.masked ∧ d.take n = f.encodeIn form key ∧
        n = (f.encodeIn form key).length) ∧
      ∀ form : LengthForm, form.Holds f.payload.length →
        (f.encodeIn form none = f.encode ↔ form.IsShortest f.payload.length) ∧
        ∀ key : MaskKey,
          f.encodeIn form (some key) = f.encodeMasked key ↔ form.IsShortest f.payload.length := by
  refine ⟨⟨fun h => ?_, ?_⟩, fun form hholds => ⟨?_, fun key => ?_⟩⟩
  · obtain ⟨form, key, hholds, hmasked, htake⟩ := exists_encodeIn_of_decode h
    have hlength : (d.take n).length = n := List.length_take_of_le (size_le_length h)
    exact ⟨form, key, hholds, hmasked, htake, by rw [← htake, hlength]⟩
  · rintro ⟨form, key, hholds, hmasked, htake, hn⟩
    have hsplit : f.encodeIn form key ++ d.drop n = d := by
      rw [← htake, List.take_append_drop]
    rw [← hsplit, decode_encodeIn_append form key f hholds, hmasked, ← hn]
  · rw [encode_eq_encodeIn, encodeIn_inj,
      LengthForm.isShortest_iff hholds (LengthForm.lt_of_holds hholds)]
  · rw [encodeMasked_eq_encodeIn, encodeIn_inj,
      LengthForm.isShortest_iff hholds (LengthForm.lt_of_holds hholds)]

/-- A frame of one byte whose length stands in the two bytes of the middle form is read, although
nobody writes it so. -/
theorem not_forall_take_eq_encode :
    ¬ ∀ (d : Bytes) (f : Frame) (n : Nat), decode d = .ok (f, n) →
      (f.masked = false → f.encode = d.take n) ∧
      (f.masked = true → ∃ key : MaskKey, d.take n = f.encodeMasked key) := by
  intro h
  have hlong := (h [0x82, 126, 0, 1, 0xAB] (Frame.binary [0xAB]) 5 (by cbv)).1 rfl
  revert hlong
  decide

end Frame
end WebSocket
