import WebSocket.Connection
import WebSocket.Proofs.Frame.Masking
import WebSocket.Proofs.Transport.Reading

/-
The rules for frames are checked twice: on the header, before the payload has arrived, and on the
whole frame, before it is taken for a message.  The first check is the second one between two that
only the receiver makes, of the mask before it and of the size behind it
(`Frame.checkIncoming_eq`), so where these have nothing to object to the two agree, errors included.
A frame that has been read has passed the first check, so the second one never refuses it
(`FrameHeader.check_agrees`).
-/
namespace WebSocket

namespace Frame

/-- The check of an incoming frame is that of every frame, behind that of the mask and before that
of the size. -/
theorem checkIncoming_eq (limits : Limits) (f : Frame) :
    checkIncoming limits f.masked f.hasReserved f.opcode.isControl f.fin f.payload.length =
      if f.masked then f.validate >>= fun _ => limits.checkFrameSize f.payload.length
      else .error .unmaskedClientFrame := by
  unfold checkIncoming validate
  cases f.masked with
  | false => rfl
  | true =>
    cases f.hasReserved with
    | true => rfl
    | false =>
      cases f.opcode.isControl with
      | false => rfl
      | true =>
        cases f.fin with
        | false => rfl
        | true =>
          by_cases hl : f.payload.length > maxControlPayload
          · simp [hl, bind, Except.bind]
          · simp [hl, bind, Except.bind]

theorem checkIncoming_eq_ok_iff {limits : Limits} {f : Frame} :
    checkIncoming limits f.masked f.hasReserved f.opcode.isControl f.fin f.payload.length = .ok () ↔
      f.masked = true ∧ f.validate = .ok () ∧ f.payload.length ≤ limits.maxFrameSize := by
  rw [checkIncoming_eq]
  cases f.masked with
  | false =>
    constructor
    · intro h
      cases h
    · rintro ⟨h, -⟩
      cases h
  | true =>
    rw [if_pos rfl, bind_eq_ok_iff]
    unfold Limits.checkFrameSize
    constructor
    · rintro ⟨_, hv, hsize⟩
      split at hsize
      · cases hsize
      · exact ⟨rfl, hv, Nat.le_of_not_lt ‹_›⟩
    · rintro ⟨-, hv, hsize⟩
      exact ⟨(), hv, if_neg (Nat.not_lt_of_le hsize)⟩

end Frame

namespace FrameHeader

/-- A header is checked for what any frame with the header is. -/
theorem check_eq (limits : Limits) {d : Bytes} {h : FrameHeader} {f : Frame} {n : Nat}
    (hd : decode d = .ok h) (hf : Frame.decode d = .ok (f, n)) :
    f.masked = h.key.isSome ∧ f.payload.length = h.length ∧
      h.check limits =
        Frame.checkIncoming limits f.masked f.hasReserved f.opcode.isControl f.fin
          f.payload.length := by
  obtain ⟨header, hheader, hb⟩ := Frame.decode_eq_ok_iff.mp hf
  rw [hd] at hheader
  cases hheader
  obtain ⟨hle, rfl, rfl⟩ := (Frame.decodeBody_eq_ok_iff (size_le_length hd)).mp hb
  have hlength : (Frame.ofHeader h ((d.drop h.size).take h.length)).payload.length = h.length := by
    rw [Frame.payload_ofHeader, Frame.length_underKey, Frame.length_payload]
    omega
  refine ⟨rfl, hlength, ?_⟩
  rw [hlength]
  rfl

end FrameHeader

/-- A frame that has been found has passed the check. -/
theorem checkIncoming_of_scanFrame {limits : Limits} {d rest : Bytes} {f : Frame}
    (h : scanFrame limits d = .found f rest) :
    f.masked = true ∧ f.validate = .ok () ∧ f.payload.length ≤ limits.maxFrameSize := by
  have hs := frameScan limits d
  rw [h] at hs
  cases hs with
  | found header check body =>
    rw [(FrameHeader.check_eq limits header body).2.2] at check
    exact Frame.checkIncoming_eq_ok_iff.mp check

/-- A frame that keeps the rules is taken for what its content says. -/
theorem Message.ofFrame_of_validate {f : Frame} (h : f.validate = .ok ()) :
    ofFrame f = ofContent f := by
  rw [ofFrame, h]
  rfl

/-- Takes up a frame that is known to keep the rules. -/
def Connection.takeUp (c : Connection) (frame : Frame) : Connection :=
  match Message.ofContent frame with
  | .ok message => c.answer message
  | .error e => if frame.opcode = .close then c.answerBadClose e else c.fail e

/-- The check of a header and the check of the frame with the header agree, errors included, if the
frame is masked and within the limit.  A frame that is read is masked, within the limit and keeps
the rules; so a connection that takes it up need not check it again. -/
theorem FrameHeader.check_agrees :
    (∀ (limits : Limits) (d : Bytes) (h : FrameHeader) (f : Frame) (n : Nat),
      decode d = .ok h → Frame.decode d = .ok (f, n) → h.length ≤ limits.maxFrameSize →
        h.key.isSome = true → h.check limits = f.validate) ∧
      (∀ (c next : Codec) (f : Frame), c.readFrame = (some (.ok f), next) →
        f.masked = true ∧ f.payload.length ≤ c.limits.maxFrameSize ∧ f.validate = .ok () ∧
          Message.ofFrame f = Message.ofContent f) ∧
      ∀ (c : Connection) (codec : Codec) (f : Frame), c.codec.stepFrame = .done (.ok f) codec →
        f.validate = .ok () ∧ { c with codec }.dispatch f = { c with codec }.takeUp f := by
  refine ⟨fun limits d h f n hd hf hsize hkey => ?_, fun c next f hread => ?_,
    fun c codec f hread => ?_⟩
  · obtain ⟨hmasked, hlength, hcheck⟩ := check_eq limits hd hf
    rw [hcheck, Frame.checkIncoming_eq, hmasked, hlength, if_pos hkey]
    have hfits : limits.checkFrameSize h.length = .ok () := if_neg (Nat.not_lt_of_le hsize)
    rw [hfits]
    cases f.validate <;> rfl
  · obtain ⟨d, rest, hfound⟩ := Codec.found_of_readFrame hread
    obtain ⟨hmasked, hvalid, hfits⟩ := checkIncoming_of_scanFrame hfound
    exact ⟨hmasked, hfits, hvalid, Message.ofFrame_of_validate hvalid⟩
  · obtain ⟨rest, hfound, -⟩ := Codec.step_ok hread
    have hvalid := (checkIncoming_of_scanFrame hfound).2.1
    refine ⟨hvalid, ?_⟩
    rw [Connection.dispatch, Message.ofFrame_of_validate hvalid]
    rfl

/-- A ping that claims to be a part of something is refused by both checks for the same reason, and
a ping in order is taken up as it is read. -/
theorem FrameHeader.check_agrees_of_ping :
    let key : MaskKey := ⟨1, 2, 3, 4⟩
    let part : FrameHeader := ⟨false, false, false, false, .ping, some key, 1, 6⟩
    let torn : Frame := ⟨false, false, false, false, .ping, true, [0x68]⟩
    let whole : Frame := { torn with fin := true }
    let codec : Codec := { Codec.new .default with buffer := [0x89, 0x81, 1, 2, 3, 4, 0x69] }
    let c := Connection.new .default .silent (.v4 ⟨127, 0, 0, 1⟩) (.ofConfig .default) none 0 0
    decode [0x09, 0x81, 1, 2, 3, 4, 0x69] = .ok part ∧
      part.check .default = torn.validate ∧ torn.validate = .error .fragmentedControlFrame ∧
      codec.readFrame = (some (.ok whole), .new .default) ∧ whole.validate = .ok () ∧
      Message.ofFrame whole = .ok (.ping [0x68]) ∧ c.dispatch whole = c.takeUp whole := by
  intro key part torn whole codec c
  have hheader : decode [0x09, 0x81, 1, 2, 3, 4, 0x69] = .ok part := by cbv
  have hframe : Frame.decode [0x09, 0x81, 1, 2, 3, 4, 0x69] = .ok (torn, 7) := by cbv
  have hread : codec.readFrame = (some (.ok whole), .new .default) := by cbv
  have hstep : { c with codec := codec }.codec.stepFrame = .done (.ok whole) (.new .default) := by
    cbv
  have hrule : torn.validate = .error .fragmentedControlFrame := by cbv
  obtain ⟨hcheck, hcodec, hconnection⟩ := check_agrees
  refine ⟨hheader, hcheck .default _ part torn 7 hheader hframe (by decide) rfl, hrule, ?_⟩
  obtain ⟨-, -, hvalid, hmessage⟩ := hcodec codec _ whole hread
  exact ⟨hread, hvalid, hmessage, (hconnection { c with codec := codec } _ whole hstep).2⟩

end WebSocket
