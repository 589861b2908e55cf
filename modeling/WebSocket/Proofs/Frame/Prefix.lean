import WebSocket.Frame.Incoming

/-
A frame is read from the front of a byte string, so what follows it does not matter.  Reading asks
for more bytes as long as it cannot decide; once it has decided, for a frame or against one, further
bytes leave the decision as it is.  This holds of the header (`FrameHeader.decode_append`), of the
body (`Frame.decodeBody_append`) and of the two together (`Frame.decode_append`).
-/
namespace WebSocket

/-- A result of reading that does not ask for more bytes. -/
def Decided {α : Type} (r : Except Error α) : Prop :=
  ∀ n, r ≠ .error (.incompleteFrame n)

theorem decided_ok {α : Type} (a : α) : Decided (.ok a : Except Error α) :=
  fun _ h => nomatch h

/-- Either a result has decided, or it asks for some bytes. -/
theorem decided_or {α : Type} (r : Except Error α) :
    Decided r ∨ ∃ n, r = .error (.incompleteFrame n) := by
  by_cases h : ∃ n, r = .error (.incompleteFrame n)
  · exact .inr h
  · exact .inl fun n hn => h ⟨n, hn⟩

/-- What is read first has decided when all has. -/
theorem Decided.of_bind {α β : Type} {x : Except Error α} {f : α → Except Error β}
    (h : Decided (x >>= f)) : Decided x := by
  intro n hx
  rw [hx] at h
  exact h n rfl

/-- No operation code is refused for want of bytes. -/
theorem Opcode.decided_ofValue (n : Nat) : Decided (ofValue n) := by
  intro m h
  unfold ofValue at h
  split at h
  case h_7 =>
    split at h <;> cases h
  all_goals cases h

namespace FrameHeader

/-! ## The parts of a header -/

theorem missing_eq (n : Nat) (d : Bytes) : missing n d = n - d.length := by
  rw [missing, List.length_take]
  omega

/-- How many bytes are needed is said exactly while they are not all there. -/
theorem need_eq (n : Nat) (d : Bytes) :
    need n d = if n ≤ d.length then .ok () else .error (.incompleteFrame (n - d.length)) := by
  rw [need, missing_eq]
  by_cases h : n ≤ d.length
  · rw [if_pos h, if_pos (Nat.sub_eq_zero_of_le h)]
  · rw [if_neg h, if_neg (by omega)]

/-- Bytes that are there stay where they are. -/
theorem take_drop_append {i n : Nat} {d : Bytes} (h : i + n ≤ d.length) (t : Bytes) :
    ((d ++ t).drop i).take n = (d.drop i).take n := by
  rw [List.drop_append_of_le_length (by omega), List.take_append_of_le_length]
  rw [List.length_drop]
  omega

theorem readLength_append {bits : Nat} {d : Bytes} (h : Decided (readLength bits d))
    (t : Bytes) : readLength bits (d ++ t) = readLength bits d := by
  unfold readLength at h ⊢
  simp only [need_eq, List.length_append] at h ⊢
  by_cases h6 : bits = 126
  · simp only [h6, if_true] at h ⊢
    by_cases hl : 4 ≤ d.length
    · rw [if_pos hl, if_pos (by omega), take_drop_append hl]
    · rw [if_neg hl] at h
      exact absurd rfl (h _)
  · simp only [h6, if_false] at h ⊢
    by_cases h7 : bits = 127
    · simp only [h7, if_true] at h ⊢
      by_cases hl : 10 ≤ d.length
      · rw [if_pos hl, if_pos (by omega), take_drop_append hl]
      · rw [if_neg hl] at h
        exact absurd rfl (h _)
    · simp only [h7, if_false]

theorem readKey_append {masked : Bool} {position : Nat} {d : Bytes}
    (h : Decided (readKey masked position d)) (t : Bytes) :
    readKey masked position (d ++ t) = readKey masked position d := by
  unfold readKey at h ⊢
  cases masked with
  | false => rfl
  | true =>
    simp only [need_eq, List.length_append, if_true] at h ⊢
    by_cases hl : position + 4 ≤ d.length
    · rw [if_pos hl, if_pos (by omega), take_drop_append hl]
    · rw [if_neg hl] at h
      exact absurd rfl (h _)

/-! ## Headers -/

/-- A header that has been read, or refused, is the same whatever follows. -/
theorem decode_append {d : Bytes} (h : Decided (decode d)) (t : Bytes) :
    decode (d ++ t) = decode d := by
  match d with
  | [] => exact absurd rfl (h _)
  | [_] => exact absurd rfl (h _)
  | first :: second :: rest =>
    simp only [decode, List.cons_append] at h ⊢
    rw [← List.cons_append, ← List.cons_append]
    cases ho : Opcode.ofValue (first &&& 0x0F).toNat with
    | error e => rfl
    | ok opcode =>
      rw [ho] at h
      replace h : Decided
          (readLength (second &&& 0x7F).toNat (first :: second :: rest) >>= _) := h
      show (readLength _ _ >>= _) = (readLength _ _ >>= _)
      rw [readLength_append h.of_bind t]
      cases hr : readLength (second &&& 0x7F).toNat (first :: second :: rest) with
      | error e => rfl
      | ok lengthAndPosition =>
        rw [hr] at h
        replace h : Decided (readKey (bit second 0x80) lengthAndPosition.2
          (first :: second :: rest) >>= _) := h
        show (readKey _ _ _ >>= _) = (readKey _ _ _ >>= _)
        rw [readKey_append h.of_bind t]

/-! ## What is missing -/

theorem readLength_missing {bits n length position : Nat} {d t : Bytes}
    (h : readLength bits d = .error (.incompleteFrame n))
    (hr : readLength bits (d ++ t) = .ok (length, position)) :
    0 < n ∧ d.length + n = position := by
  unfold readLength at h hr
  simp only [need_eq, List.length_append] at h hr
  by_cases h6 : bits = 126
  · simp only [h6, if_true] at h hr
    by_cases hl : 4 ≤ d.length
    · rw [if_pos hl] at h
      cases h
    · rw [if_neg hl] at h
      split at hr
      · cases h
        cases hr
        omega
      · cases hr
  · simp only [h6, if_false] at h hr
    by_cases h7 : bits = 127
    · simp only [h7, if_true] at h hr
      by_cases hl : 10 ≤ d.length
      · rw [if_pos hl] at h
        simp only [bind, Except.bind] at h
        split at h <;> cases h
      · rw [if_neg hl] at h
        split at hr
        · simp only [bind, Except.bind] at hr
          split at hr
          · cases hr
          · cases h
            cases hr
            omega
        · cases hr
    · simp only [h7, if_false] at h
      cases h

theorem readKey_missing {masked : Bool} {position n size : Nat} {key : Option MaskKey}
    {d t : Bytes} (h : readKey masked position d = .error (.incompleteFrame n))
    (hr : readKey masked position (d ++ t) = .ok (key, size)) :
    0 < n ∧ d.length + n = size := by
  unfold readKey at h hr
  simp only [need_eq, List.length_append] at h hr
  cases masked with
  | false => cases h
  | true =>
    simp only [if_true] at h hr
    by_cases hl : position + 4 ≤ d.length
    · rw [if_pos hl] at h
      cases h
    · rw [if_neg hl] at h
      split at hr
      · cases h
        cases hr
        omega
      · cases hr

theorem position_le_of_readLength {bits length position : Nat} {d : Bytes}
    (h : readLength bits d = .ok (length, position)) (hd : 2 ≤ d.length) :
    position ≤ d.length := by
  unfold readLength at h
  simp only [need_eq] at h
  split at h
  · split at h
    · cases h
      assumption
    · cases h
  · split at h
    · split at h
      · simp only [bind, Except.bind] at h
        split at h
        · cases h
        · cases h
          assumption
      · cases h
    · cases h
      exact hd

theorem size_le_of_readKey {masked : Bool} {position size : Nat} {key : Option MaskKey}
    {d : Bytes} (h : readKey masked position d = .ok (key, size)) (hp : position ≤ d.length) :
    size ≤ d.length := by
  unfold readKey at h
  simp only [need_eq] at h
  split at h
  · split at h
    · cases h
      assumption
    · cases h
  · cases h
    exact hp

/-- The steps that have led to a header. -/
theorem decode_eq_ok {first second : UInt8} {rest : Bytes} {h : FrameHeader}
    (hd : decode (first :: second :: rest) = .ok h) :
    ∃ opcode position,
      Opcode.ofValue (first &&& 0x0F).toNat = .ok opcode ∧
        readLength (second &&& 0x7F).toNat (first :: second :: rest) = .ok (h.length, position) ∧
          readKey (bit second 0x80) position (first :: second :: rest) = .ok (h.key, h.size) := by
  simp only [decode, bind, Except.bind, pure, Except.pure] at hd
  split at hd
  · cases hd
  · rename_i opcode ho
    split at hd
    · cases hd
    · rename_i lp hl
      split at hd
      · cases hd
      · rename_i ks hk
        cases hd
        exact ⟨opcode, lp.2, ho, hl, hk⟩

/-- A string that ends inside a header lacks at least the bytes that it is said to lack. -/
theorem decode_missing {n : Nat} {d t : Bytes} {h : FrameHeader}
    (hd : decode d = .error (.incompleteFrame n)) (hr : decode (d ++ t) = .ok h) :
    0 < n ∧ d.length + n ≤ h.size := by
  have htwo := (two_le_size hr).1
  match d with
  | [] =>
    cases hd
    simpa using htwo
  | [_] =>
    cases hd
    simpa using htwo
  | first :: second :: rest =>
    obtain ⟨opcode, position, ho, hl, hk⟩ := decode_eq_ok hr
    replace hl : readLength _ (first :: second :: rest ++ t) = _ := hl
    replace hk : readKey _ _ (first :: second :: rest ++ t) = _ := hk
    simp only [decode, ho] at hd
    replace hd : (readLength (second &&& 0x7F).toNat (first :: second :: rest) >>= _) = _ := hd
    cases hp : readLength (second &&& 0x7F).toNat (first :: second :: rest) with
    | error e =>
      rw [hp] at hd
      cases hd
      have hm := readLength_missing hp hl
      have hle := le_of_readKey hk
      exact ⟨hm.1, by omega⟩
    | ok lengthAndPosition =>
      have hsame := readLength_append (hp ▸ decided_ok _) t
      rw [hp, hl] at hsame
      cases hsame
      rw [hp] at hd
      replace hd : (readKey (bit second 0x80) position (first :: second :: rest) >>= _) = _ := hd
      cases hq : readKey (bit second 0x80) position (first :: second :: rest) with
      | error e =>
        rw [hq] at hd
        cases hd
        have hm := readKey_missing hq hk
        exact ⟨hm.1, Nat.le_of_eq hm.2⟩
      | ok keyAndSize =>
        rw [hq] at hd
        cases hd

/-- A header lies inside the string that it is read from. -/
theorem size_le_length {d : Bytes} {h : FrameHeader} (hd : decode d = .ok h) :
    h.size ≤ d.length := by
  match d with
  | [] => cases hd
  | [_] => cases hd
  | first :: second :: rest =>
    obtain ⟨opcode, position, -, hl, hk⟩ := decode_eq_ok hd
    exact size_le_of_readKey hk (position_le_of_readLength hl (by simp))

end FrameHeader

namespace Frame

/-! ## Frames -/

theorem decodeBody_append {h : FrameHeader} {d : Bytes} (hb : Decided (decodeBody h d))
    (t : Bytes) : decodeBody h (d ++ t) = decodeBody h d := by
  by_cases hl : h.length ≤ ((d.drop h.size).take h.length).length
  · have hle : h.size + h.length ≤ d.length ∨ h.length = 0 := by
      rw [List.length_take, List.length_drop] at hl
      omega
    have ht : ((d ++ t).drop h.size).take h.length = (d.drop h.size).take h.length := by
      rcases hle with hle | hz
      · exact FrameHeader.take_drop_append hle t
      · rw [hz, List.take_zero, List.take_zero]
    simp only [decodeBody, ht]
  · refine absurd ?_ (hb (h.length - ((d.drop h.size).take h.length).length))
    simp only [decodeBody]
    rw [if_pos (Nat.lt_of_not_le hl)]

/-- How much of the payload is there behind its header. -/
theorem length_payload (h : FrameHeader) (d : Bytes) :
    ((d.drop h.size).take h.length).length = min h.length (d.length - h.size) := by
  rw [List.length_take, List.length_drop]

theorem decodeBody_eq_ok_iff {h : FrameHeader} {d : Bytes} (hs : h.size ≤ d.length)
    {frame : Frame} {size : Nat} :
    decodeBody h d = .ok (frame, size) ↔
      size ≤ d.length ∧ size = h.size + h.length ∧
        frame = ofHeader h ((d.drop h.size).take h.length) := by
  have hl := length_payload h d
  simp only [decodeBody]
  by_cases hlt : ((d.drop h.size).take h.length).length < h.length
  · rw [if_pos hlt]
    refine ⟨fun hd => (nomatch hd), fun ⟨hle, he, _⟩ => ?_⟩
    omega
  · rw [if_neg hlt]
    constructor
    · intro hd
      cases hd
      exact ⟨by omega, rfl, rfl⟩
    · rintro ⟨-, rfl, rfl⟩
      rfl

theorem decode_eq_ok_iff {d : Bytes} {frame : Frame} {size : Nat} :
    decode d = .ok (frame, size) ↔
      ∃ h, FrameHeader.decode d = .ok h ∧ decodeBody h d = .ok (frame, size) := by
  simp only [decode]
  cases hd : FrameHeader.decode d with
  | error e =>
    constructor
    · intro h
      cases h
    · rintro ⟨_, he, -⟩
      cases he
  | ok header =>
    constructor
    · intro h
      exact ⟨header, rfl, h⟩
    · rintro ⟨_, he, h⟩
      cases he
      exact h

/-- A frame that has been read, or refused, is the same whatever follows. -/
theorem decode_append {d : Bytes} (h : Decided (decode d)) (t : Bytes) :
    decode (d ++ t) = decode d := by
  have hh := FrameHeader.decode_append h.of_bind t
  simp only [decode] at h ⊢
  rw [hh]
  cases hd : FrameHeader.decode d with
  | error e => rfl
  | ok header =>
    rw [hd] at h
    exact decodeBody_append h t

/-- A frame lies inside the string that it is read from. -/
theorem size_le_length {d : Bytes} {frame : Frame} {size : Nat}
    (h : decode d = .ok (frame, size)) : size ≤ d.length := by
  obtain ⟨header, hd, hb⟩ := decode_eq_ok_iff.mp h
  exact ((decodeBody_eq_ok_iff (FrameHeader.size_le_length hd)).mp hb).1

/-- A string that ends inside a frame lacks at least the bytes that it is said to lack. -/
theorem decode_missing {n size : Nat} {d t : Bytes} {frame : Frame}
    (hd : decode d = .error (.incompleteFrame n)) (hr : decode (d ++ t) = .ok (frame, size)) :
    0 < n ∧ d.length + n ≤ size := by
  obtain ⟨header, hh, hb⟩ := decode_eq_ok_iff.mp hr
  have hsize := (decodeBody_eq_ok_iff (FrameHeader.size_le_length hh)).mp hb
  simp only [decode] at hd
  cases hp : FrameHeader.decode d with
  | error e =>
    rw [hp] at hd
    cases hd
    have hm := FrameHeader.decode_missing hp hh
    exact ⟨hm.1, by omega⟩
  | ok other =>
    -- the header is there already, so the body is what lacks bytes
    have hsame := FrameHeader.decode_append (hp ▸ decided_ok _) t
    rw [hp, hh] at hsame
    cases hsame
    rw [hp] at hd
    replace hd : decodeBody header d = _ := hd
    have hle := FrameHeader.size_le_length hp
    have hl := length_payload header d
    simp only [decodeBody] at hd
    split at hd
    · cases hd
      omega
    · cases hd

/-- The bytes that a frame takes are enough to read it. -/
theorem decode_take {d : Bytes} {frame : Frame} {size : Nat}
    (h : decode d = .ok (frame, size)) : decode (d.take size) = .ok (frame, size) := by
  have hlen : (d.take size).length = size := List.length_take_of_le (size_le_length h)
  have hsplit : d.take size ++ d.drop size = d := List.take_append_drop size d
  rcases decided_or (decode (d.take size)) with hd | ⟨n, hn⟩
  · rw [← decode_append hd (d.drop size), hsplit, h]
  · have hm := decode_missing (t := d.drop size) hn (by rw [hsplit, h])
    omega

end Frame
end WebSocket
