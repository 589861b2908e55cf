import WebSocket.Proofs.Frame.Prefix

/-
A frame is read from its own bytes: from no fewer, and whatever follows them.  A reader that has to
ask for bytes asks for what it lacks at the stage it has come to, and for no more
(`AsksWithin`): with fewer bytes it stays at that stage and asks for the rest.  The property is
proved of each part of a frame and handed on when one part is read behind another
(`AsksWithin.bind`), so that it holds of whole frames (`Frame.decode_exact`).
-/
namespace WebSocket

/-- If a reader asks for bytes behind `d`, it asks for some, and as long as they are not all there
it asks for those that are left. -/
def AsksWithin {α : Type} (read : Bytes → Except Error α) (d : Bytes) : Prop :=
  ∀ n, read d = .error (.incompleteFrame n) →
    0 < n ∧ ∀ t : Bytes, t.length < n → read (d ++ t) = .error (.incompleteFrame (n - t.length))

namespace AsksWithin

variable {α β : Type} {read : Bytes → Except Error α} {d : Bytes}

theorem of_decided (h : Decided (read d)) : AsksWithin read d :=
  fun n hn => absurd hn (h n)

/-- What is read behind another item asks within it.  The first item has to stay the same when
bytes follow. -/
theorem bind {next : α → Bytes → Except Error β} (hread : AsksWithin read d)
    (hstays : ∀ a, read d = .ok a → ∀ t, read (d ++ t) = .ok a)
    (hnext : ∀ a, read d = .ok a → AsksWithin (next a) d) :
    AsksWithin (fun d => read d >>= fun a => next a d) d := by
  intro n hn
  replace hn : (read d >>= fun a => next a d) = _ := hn
  show 0 < n ∧ ∀ t : Bytes, t.length < n → (read (d ++ t) >>= fun a => next a (d ++ t)) = _
  cases hr : read d with
  | error e =>
    rw [hr] at hn
    cases hn
    obtain ⟨hpos, hmore⟩ := hread n hr
    refine ⟨hpos, fun t ht => ?_⟩
    rw [hmore t ht]
    rfl
  | ok a =>
    rw [hr] at hn
    obtain ⟨hpos, hmore⟩ := hnext a hr n hn
    refine ⟨hpos, fun t ht => ?_⟩
    rw [hstays a hr t]
    exact hmore t ht

end AsksWithin

namespace FrameHeader

variable {d : Bytes}

theorem need_append {n : Nat} (h : need n d = .ok ()) (t : Bytes) :
    need n (d ++ t) = .ok () := by
  rw [need_eq] at h ⊢
  split at h
  · rw [List.length_append, if_pos (by omega)]
  · cases h

theorem asksWithin_need (n : Nat) : AsksWithin (need n) d := by
  intro m hm
  rw [need_eq] at hm
  split at hm
  · cases hm
  · cases hm
    refine ⟨by omega, fun t ht => ?_⟩
    rw [need_eq, List.length_append, if_neg (by omega), Nat.sub_add_eq]

theorem asksWithin_readLength (bits : Nat) : AsksWithin (readLength bits) d := by
  unfold readLength
  by_cases h6 : bits = 126
  · simp only [h6, if_true]
    exact (asksWithin_need 4).bind (fun _ hn t => need_append hn t)
      fun _ _ => .of_decided (decided_ok _)
  · simp only [h6, if_false]
    by_cases h7 : bits = 127
    · simp only [h7, if_true]
      refine (asksWithin_need 10).bind (fun _ hn t => need_append hn t)
        fun _ _ => .of_decided fun n hn => ?_
      split at hn <;> cases hn
    · simp only [h7, if_false]
      exact .of_decided (decided_ok _)

theorem asksWithin_readKey (masked : Bool) (position : Nat) :
    AsksWithin (readKey masked position) d := by
  unfold readKey
  cases masked with
  | false => exact .of_decided (decided_ok _)
  | true =>
    simp only [if_true]
    exact (asksWithin_need (position + 4)).bind (fun _ hn t => need_append hn t)
      fun _ _ => .of_decided (decided_ok _)

/-- The key is read behind the length, and asks for what it lacks there. -/
theorem asksWithin_readParts {β : Type} (bits : Nat) (masked : Bool)
    (finish : Nat × Nat → Option MaskKey × Nat → β) :
    AsksWithin (fun d => readLength bits d >>= fun length =>
      readKey masked length.2 d >>= fun key => .ok (finish length key)) d := by
  refine (asksWithin_readLength bits).bind
    (fun _ hl t => by rw [readLength_append (hl ▸ decided_ok _) t, hl]) fun length _ => ?_
  exact (asksWithin_readKey masked length.2).bind
    (fun _ hk t => by rw [readKey_append (hk ▸ decided_ok _) t, hk])
    fun _ _ => .of_decided (decided_ok _)

/-- Two bytes are asked for first, then the length, then the key. -/
theorem asksWithin_decode : AsksWithin decode d := by
  match d with
  | [] =>
    intro n hn
    cases hn
    refine ⟨by decide, fun t ht => ?_⟩
    match t, ht with
    | [], _ => rfl
    | [_], _ => rfl
  | [_] =>
    intro n hn
    cases hn
    refine ⟨Nat.one_pos, fun t ht => ?_⟩
    match t, ht with
    | [], _ => rfl
  | first :: second :: rest =>
    intro n hn
    cases ho : Opcode.ofValue (first &&& 0x0F).toNat with
    | error e =>
      simp only [decode, ho] at hn
      cases hn
      exact absurd ho (Opcode.decided_ofValue _ n)
    | ok opcode =>
      -- bytes that follow leave the first two as they are
      have hparts := asksWithin_readParts (d := first :: second :: rest) (second &&& 0x7F).toNat
        (bit second 0x80) (fun length key =>
          { fin := bit first 0x80
            rsv1 := bit first 0x40
            rsv2 := bit first 0x20
            rsv3 := bit first 0x10
            opcode := opcode
            key := key.1
            length := length.1
            size := key.2 : FrameHeader })
      simp only [decode, List.cons_append, ho] at hn ⊢
      exact hparts n hn

end FrameHeader

namespace Frame

variable {d : Bytes}

/-- Behind a header that is there, what is lacking is lacking of the payload. -/
theorem asksWithin_decodeBody {h : FrameHeader} (hs : h.size ≤ d.length) :
    AsksWithin (decodeBody h) d := by
  intro n hn
  simp only [decodeBody, length_payload] at hn
  split at hn
  · cases hn
    refine ⟨by omega, fun t ht => ?_⟩
    have hlength : (d ++ t).length = d.length + t.length := List.length_append
    simp only [decodeBody, length_payload, hlength]
    rw [if_pos (by omega)]
    congr 2
    omega
  · cases hn

theorem asksWithin_decode : AsksWithin decode d :=
  FrameHeader.asksWithin_decode.bind
    (fun _ hd t => by rw [FrameHeader.decode_append (hd ▸ decided_ok _) t, hd])
    fun _ hd => asksWithin_decodeBody (FrameHeader.size_le_length hd)

/-- A frame that is cut short anywhere lacks some bytes, and no more than were cut off. -/
theorem exists_needed_of_take {frame : Frame} {size k : Nat} (h : decode d = .ok (frame, size))
    (hk : k < size) :
    ∃ needed, decode (d.take k) = .error (.incompleteFrame needed) ∧
      1 ≤ needed ∧ needed ≤ size - k := by
  have hle := size_le_length h
  have hlength : (d.take k).length = k := List.length_take_of_le (by omega)
  have hwhole : decode (d.take k ++ d.drop k) = .ok (frame, size) := by
    rw [List.take_append_drop, h]
  rcases decided_or (decode (d.take k)) with hdec | ⟨needed, hneeded⟩
  · -- a reader that had decided on so few bytes would have read the frame from them
    rw [decode_append hdec] at hwhole
    have hfits := size_le_length hwhole
    omega
  · have hmissing := decode_missing hneeded hwhole
    exact ⟨needed, hneeded, hmissing.1, by omega⟩

/-- Reading is exact.  A frame is read from its bytes whatever follows them, and from no fewer; the
number of bytes that are asked for is then at least one and at most what was cut off.  A string that
is refused is refused whatever follows.  A string that is found too short stays too short until the
bytes that it was said to lack are there, and lacks in between what is left of them. -/
theorem decode_exact (d : Bytes) :
    (∀ frame size, decode d = .ok (frame, size) →
      size ≤ d.length ∧
        (∀ s, decode (d.take size ++ s) = .ok (frame, size)) ∧
        ∀ k < size, ∃ needed, decode (d.take k) = .error (.incompleteFrame needed) ∧
          1 ≤ needed ∧ needed ≤ size - k) ∧
      (∀ e, decode d = .error e → (∀ needed, e ≠ .incompleteFrame needed) →
        ∀ s, decode (d ++ s) = .error e) ∧
      ∀ needed, decode d = .error (.incompleteFrame needed) →
        ∀ s : Bytes, s.length < needed →
          decode (d ++ s) = .error (.incompleteFrame (needed - s.length)) := by
  refine ⟨fun frame size h => ⟨size_le_length h, fun s => ?_, fun k hk => ?_⟩,
    fun e he hne s => ?_, fun needed h s hs => ?_⟩
  · have htake := decode_take h
    rw [decode_append (htake ▸ decided_ok _) s, htake]
  · exact exists_needed_of_take h hk
  · have hdec : Decided (decode d) := by
      intro needed hd
      rw [he] at hd
      cases hd
      exact hne needed rfl
    rw [decode_append hdec s, he]
  · exact (asksWithin_decode needed h).2 s hs

/-- A masked ping of two bytes in front of another byte, a reserved operation code, and a length in
eight bytes that has not begun. -/
theorem decode_exact_of_ping :
    let ping : Bytes := [0x89, 0x82, 1, 2, 3, 4, 0x49, 0x6B, 7]
    let frame : Frame := { Frame.ping [0x48, 0x69] with masked := true }
    (decode ping = .ok (frame, 8) ∧ (∀ s, decode (ping.take 8 ++ s) = .ok (frame, 8)) ∧
        ∃ needed, decode (ping.take 3) = .error (.incompleteFrame needed) ∧
          1 ≤ needed ∧ needed ≤ 5) ∧
      (∀ s, decode ([0x83, 0] ++ s) = .error (.reservedOpcode 3)) ∧
      decode ([0x82, 127] ++ [0, 0, 0]) = .error (.incompleteFrame 5) := by
  intro ping frame
  have hping : decode ping = .ok (frame, 8) := by cbv
  obtain ⟨-, hsame, hshort⟩ := (decode_exact ping).1 frame 8 hping
  refine ⟨⟨hping, hsame, hshort 3 (by decide)⟩, fun s => ?_, ?_⟩
  · exact (decode_exact [0x83, 0]).2.1 _ rfl (fun _ => by simp) s
  · exact (decode_exact [0x82, 127]).2.2 8 rfl [0, 0, 0] (by decide)

end Frame
end WebSocket
