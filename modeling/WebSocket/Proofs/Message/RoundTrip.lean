import WebSocket.Message
import WebSocket.Proofs.Frame.RoundTrip
import WebSocket.Proofs.Text.Clipping

/-
What a message is sent as means the message.  A close frame says what its payload was made of
(`CloseFrame.decode_closePayload`), a payload in order is made of what it says
(`CloseFrame.closePayload_of_decode`), and the frame of a message that may be sent carries the
message, up to a reason that had to be clipped (`Message.ofFrame_toFrame`): of such a reason the
longest start that fits arrives (`Message.ofFrame_toFrame_shortened`).  Such frames are sound
(`Frame.Sound`): whoever reads their bytes gets the frame and its meaning.
-/
namespace WebSocket

/-! ## Close frames -/

namespace CloseFrame

/-- A code and a reason are read from the payload that they make. -/
theorem decode_closePayload {code : CloseCode} (h : code.isValid = true) (reason : String) :
    decode (Frame.closePayload (some code) reason) = .ok (some ⟨code, reason⟩) := by
  obtain ⟨high, low, hbytes⟩ : ∃ high low, Bytes.ofNat 2 code.value.toNat = [high, low] :=
    ⟨_, _, rfl⟩
  have hcode : Bytes.toNat [high, low] = code.value.toNat := by
    rw [← hbytes, Bytes.toNat_ofNat]
    exact Nat.mod_eq_of_lt code.value.toNat_lt
  have hpayload : Frame.closePayload (some code) reason = high :: low :: Bytes.ofText reason := by
    rw [Frame.closePayload, hbytes]
    rfl
  simp only [hpayload, decode, hcode, UInt16.ofNat_toNat, h, Bytes.text?_ofText, if_true]

/-- The code that two bytes form is written by the two. -/
theorem ofNat_code (high low : UInt8) :
    Bytes.ofNat 2 (UInt16.ofNat (Bytes.toNat [high, low])).toNat = [high, low] := by
  have hplace : Bytes.place 2 = 0x10000 := by decide
  have hlt : Bytes.toNat [high, low] < Bytes.place 2 := Bytes.toNat_lt [high, low]
  rw [hplace] at hlt
  rw [UInt16.toNat_ofNat', Nat.mod_eq_of_lt hlt]
  exact Bytes.ofNat_toNat [high, low]

/-- What the payload of a close frame says has a valid code, and its bytes are those of the code
and the reason. -/
theorem closePayload_of_decode {payload : Bytes} {c : CloseFrame}
    (h : decode payload = .ok (some c)) :
    c.code.isValid = true ∧ Frame.closePayload (some c.code) c.reason = payload := by
  unfold decode at h
  split at h
  · cases h
  · cases h
  · rename_i high low rest
    simp only at h
    split at h
    · rename_i hvalid
      split at h
      · rename_i reason hreason
        cases h
        refine ⟨hvalid, ?_⟩
        rw [Frame.closePayload, ofNat_code, Bytes.ofText_of_text? hreason]
        rfl
      · cases h
    · cases h

/-- Nothing is said by an empty payload only. -/
theorem eq_nil_of_decode {payload : Bytes} (h : decode payload = .ok none) : payload = [] := by
  unfold decode at h
  split at h
  · rfl
  · cases h
  · simp only at h
    split at h
    · split at h <;> cases h
    · cases h

end CloseFrame

/-! ## Messages -/

namespace Message

/-- A message that may be sent: a control message is short, and a close code is valid. -/
def Orderly : Message → Prop
  | .text _ => True
  | .binary _ => True
  | .close none => True
  | .close (some c) => c.code.isValid = true
  | .ping data => data.length ≤ Frame.maxControlPayload
  | .pong data => data.length ≤ Frame.maxControlPayload

/-- A message as it arrives, with its reason clipped. -/
def clipped : Message → Message
  | .close (some c) => .close (some { c with reason := Text.clip Frame.maxCloseReason c.reason })
  | m => m

/-- How many bytes the frame of a message has to carry. -/
def size (m : Message) : Nat :=
  m.toFrame.payload.length

/-- The payload of a close frame is short. -/
theorem size_close_le (content : Option CloseFrame) :
    (Message.close content).size ≤ Frame.maxControlPayload := by
  cases content with
  | none => exact Nat.zero_le _
  | some c =>
    have h := Text.utf8ByteSize_clip_le Frame.maxCloseReason c.reason
    show (Bytes.ofNat 2 c.code.value.toNat ++ Bytes.ofText _).length ≤ _
    rw [List.length_append, Bytes.length_ofNat, Bytes.length_ofText]
    simp only [Frame.maxCloseReason, Frame.maxControlPayload] at h ⊢
    omega

/-- The frame of a message carries the message. -/
theorem ofFrame_toFrame {m : Message} (h : m.Orderly) : ofFrame m.toFrame = .ok m.clipped := by
  have hbind : ∀ opcode payload,
      (opcode.isControl = true → payload.length ≤ Frame.maxControlPayload) →
        ofFrame (Frame.new opcode payload) = ofContent (Frame.new opcode payload) := by
    intro opcode payload hp
    have hv : (Frame.new opcode payload).validate = .ok () :=
      Frame.validate_eq_ok_iff.mpr ⟨rfl, fun hc => ⟨rfl, hp hc⟩⟩
    rw [ofFrame, hv]
    rfl
  cases m with
  | text content =>
    refine (hbind .text _ fun hc => absurd hc Bool.false_ne_true).trans ?_
    simp only [ofContent, Frame.new, Bytes.text?_ofText]
    rfl
  | binary data => exact hbind .binary data fun hc => absurd hc Bool.false_ne_true
  | ping data => exact hbind .ping data fun _ => h
  | pong data => exact hbind .pong data fun _ => h
  | close content =>
    cases content with
    | none => exact hbind .close [] fun _ => Nat.zero_le _
    | some c =>
      refine (hbind .close _ fun _ => size_close_le (some c)).trans ?_
      show (CloseFrame.decode (Frame.closePayload (some c.code) _)).map Message.close = _
      rw [CloseFrame.decode_closePayload h]
      rfl

/-- A message that may be sent is read from its frame as it was, but for a close reason.  Of that
the longest start with at most 123 bytes arrives, which the search from there back finds. -/
theorem ofFrame_toFrame_shortened (m : Message) (h : m.Orderly) :
    ∃ arrived, ofFrame m.toFrame = .ok arrived ∧
      match m with
      | .close (some c) =>
        ∃ reason, arrived = .close (some { c with reason }) ∧
          Text.IsLongestStart 123 c.reason reason ∧ Text.clipBack? 123 c.reason = some reason
      | m => arrived = m := by
  refine ⟨m.clipped, ofFrame_toFrame h, ?_⟩
  match m with
  | .close (some c) =>
    exact ⟨Text.clip 123 c.reason, rfl, Text.isLongestStart_clip 123 c.reason,
      Text.clipBack?_eq 123 c.reason⟩
  | .close none => rfl
  | .text _ => rfl
  | .binary _ => rfl
  | .ping _ => rfl
  | .pong _ => rfl

/-- Of a hundred letters of two bytes each the first 61 arrive: the limit lies inside the next
one. -/
theorem ofFrame_toFrame_shortened_of_accents :
    let reason := String.ofList (List.replicate 100 'é')
    let m : Message := .close (some ⟨.goingAway, reason⟩)
    m.Orderly ∧
      ofFrame m.toFrame =
        .ok (.close (some ⟨.goingAway, String.ofList (List.replicate 61 'é')⟩)) := by
  intro reason m
  have horderly : m.Orderly := by
    show CloseCode.goingAway.isValid = true
    decide
  obtain ⟨arrived, hread, kept, rfl, -, hkept⟩ := ofFrame_toFrame_shortened m horderly
  have hletters : Text.clip.go 123 (List.replicate 100 'é') = List.replicate 61 'é' := by
    decide +kernel
  have hclip : Text.clip 123 reason = String.ofList (List.replicate 61 'é') := by
    rw [Text.clip, String.toList_ofList, hletters]
  rw [Text.clipBack?_eq, hclip] at hkept
  cases hkept
  exact ⟨horderly, hread⟩

/-- A message that a frame carries may be sent. -/
theorem orderly_of_ofFrame {f : Frame} {m : Message} (h : ofFrame f = .ok m) : m.Orderly := by
  obtain ⟨hv, hm⟩ := ofFrame_eq_ok_iff.mp h
  obtain ⟨-, hshort⟩ := Frame.validate_eq_ok_iff.mp hv
  have hcarries := carries_of_ofContent hm
  match m with
  | .text content => trivial
  | .binary data => trivial
  | .close none => trivial
  | .close (some c) => exact (CloseFrame.closePayload_of_decode hcarries.2).1
  | .ping data =>
    obtain ⟨ho, rfl⟩ := hcarries
    exact (hshort (by rw [ho]; rfl)).2
  | .pong data =>
    obtain ⟨ho, rfl⟩ := hcarries
    exact (hshort (by rw [ho]; rfl)).2

/-- A close frame in order is answered with its own payload. -/
theorem toFrame_of_ofFrame {f : Frame} {content : Option CloseFrame}
    (h : ofFrame f = .ok (.close content)) :
    (Message.close content).toFrame = Frame.new .close f.payload := by
  obtain ⟨hv, hm⟩ := ofFrame_eq_ok_iff.mp h
  obtain ⟨-, hshort⟩ := Frame.validate_eq_ok_iff.mp hv
  obtain ⟨ho, hc⟩ := carries_of_ofContent hm
  cases content with
  | none =>
    rw [CloseFrame.eq_nil_of_decode hc]
    rfl
  | some c =>
    have hpayload := (CloseFrame.closePayload_of_decode hc).2
    have hfits : c.reason.utf8ByteSize ≤ Frame.maxCloseReason := by
      have hl := (hshort (by rw [ho]; rfl)).2
      rw [← hpayload, Frame.closePayload, List.length_append, Bytes.length_ofNat,
        Bytes.length_ofText] at hl
      simp only [Frame.maxCloseReason]
      omega
    rw [toFrame, Text.clip_eq_self hfits, Frame.close, hpayload]

end Message

/-! ## Sound frames -/

namespace Frame

/-- A frame that a server may send: its bytes read as the frame, and the frame means something. -/
structure Sound (f : Frame) : Prop where
  unmasked : f.masked = false
  decode_encode : decode f.encode = .ok (f, f.encode.length)
  meaningful : ∃ m, Message.ofFrame f = .ok m
  short : f.opcode.isControl = true → f.payload.length ≤ maxControlPayload
  valid : f.opcode = .close → ∃ content, CloseFrame.decode f.payload = .ok content

theorem Sound.of_meaningful {f : Frame} (hunmasked : f.masked = false)
    (hsize : f.payload.length < 0x8000000000000000) {m : Message} (h : Message.ofFrame f = .ok m) :
    f.Sound := by
  obtain ⟨hv, hm⟩ := Message.ofFrame_eq_ok_iff.mp h
  refine ⟨hunmasked, ?_, ⟨m, h⟩, fun hc => ((validate_eq_ok_iff.mp hv).2 hc).2, fun ho => ?_⟩
  · have hd := decode_encode_append f hsize []
    rw [List.append_nil, ← hunmasked] at hd
    rw [length_encode]
    exact hd
  · unfold Message.ofContent at hm
    rw [ho] at hm
    cases hc : CloseFrame.decode f.payload with
    | error e =>
      rw [hc] at hm
      cases hm
    | ok content => exact ⟨content, rfl⟩

/-- The frame of a message that may be sent is sound. -/
theorem sound_toFrame {m : Message} (h : m.Orderly) (hsize : m.size < 0x8000000000000000) :
    m.toFrame.Sound := by
  refine .of_meaningful ?_ hsize (Message.ofFrame_toFrame h)
  match m with
  | .text _ => rfl
  | .binary _ => rfl
  | .close none => rfl
  | .close (some _) => rfl
  | .ping _ => rfl
  | .pong _ => rfl

/-- Every close frame with a valid code is sound. -/
theorem sound_close {content : Option CloseFrame} (h : (Message.close content).Orderly) :
    (Message.close content).toFrame.Sound := by
  have hsize := Message.size_close_le content
  simp only [maxControlPayload] at hsize
  exact sound_toFrame h (by omega)

end Frame
end WebSocket
