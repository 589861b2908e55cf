import WebSocket.Proofs.Message.RoundTrip

/-
Which frames are messages, and what becomes of the others.  Every frame belongs to one of four
classes: it bears a message (`Frame.Bears`), it is a fragment of one (`Frame.IsFragment`), it holds
a text that is none (`Frame.HasBadText`), or it breaks another rule.  The classes are told apart by
the bits, the operation code and the payload alone, and each but the first has a close code of its
own, whichever other rules the frame may break as well (`Message.ofFrame_classified`).
-/
namespace WebSocket

/-! ## Texts and codes -/

/-- Whether bytes are a text in UTF-8. -/
def Bytes.IsText (b : Bytes) : Prop :=
  ∃ s, Bytes.ofText s = b

theorem Bytes.text?_eq_some_iff {b : Bytes} {s : String} : text? b = some s ↔ b = ofText s := by
  constructor
  · intro h
    exact (ofText_of_text? h).symm
  · intro h
    rw [h, text?_ofText]

theorem Bytes.text?_eq_none_iff {b : Bytes} : text? b = none ↔ ¬ IsText b := by
  rw [Option.eq_none_iff_forall_not_mem]
  constructor
  · rintro h ⟨s, rfl⟩
    exact h s (text?_ofText s)
  · intro h s hs
    exact h ⟨s, ofText_of_text? hs⟩

/-- Whether a close code may be sent. -/
def CloseCode.IsSendable (code : CloseCode) : Prop :=
  1000 ≤ code.value.toNat ∧ code.value.toNat ≤ 4999 ∧
    code.value.toNat ∉ [1004, 1005, 1006, 1015]

theorem CloseCode.isValid_iff {code : CloseCode} : code.isValid = true ↔ code.IsSendable := by
  unfold isValid isReserved IsSendable
  simp only [Bool.and_eq_true, decide_eq_true_eq, Bool.not_eq_true', Bool.or_eq_false_iff,
    Bool.and_eq_false_imp, decide_eq_false_iff_not, beq_eq_false_iff_ne, ne_eq,
    UInt16.le_iff_toNat_le, ← UInt16.toNat_inj, UInt16.reduceToNat, List.mem_cons,
    List.not_mem_nil, or_false, not_or]
  omega

/-! ## Close frames -/

namespace CloseFrame

/-- A payload with a code that may be sent and a reason that is no text. -/
def HasBadReason (payload : Bytes) : Prop :=
  ∃ (code : CloseCode) (reason : Bytes), code.IsSendable ∧ ¬ reason.IsText ∧
    payload = Bytes.ofNat 2 code.value.toNat ++ reason

theorem hasBadReason_cons_iff {high low : UInt8} {rest : Bytes} :
    HasBadReason (high :: low :: rest) ↔
      CloseCode.IsSendable ⟨UInt16.ofNat (Bytes.toNat [high, low])⟩ ∧ ¬ rest.IsText := by
  constructor
  · rintro ⟨code, reason, hsend, htext, hpayload⟩
    obtain ⟨a, b, hbytes⟩ : ∃ a b, Bytes.ofNat 2 code.value.toNat = [a, b] := ⟨_, _, rfl⟩
    have hcode : Bytes.toNat (Bytes.ofNat 2 code.value.toNat) = code.value.toNat := by
      rw [Bytes.toNat_ofNat]
      exact Nat.mod_eq_of_lt code.value.toNat_lt
    rw [hbytes] at hpayload hcode
    cases hpayload
    rw [hcode, UInt16.ofNat_toNat]
    exact ⟨hsend, htext⟩
  · rintro ⟨hsend, htext⟩
    exact ⟨_, rest, hsend, htext, by rw [ofNat_code]; rfl⟩

theorem not_hasBadReason_of_length {payload : Bytes} (h : payload.length < 2) :
    ¬ HasBadReason payload := by
  rintro ⟨code, reason, -, -, rfl⟩
  rw [List.length_append, Bytes.length_ofNat] at h
  omega

/-- A payload says nothing if it is empty, and otherwise a code that may be sent and a text. -/
theorem decode_eq_ok_iff {payload : Bytes} {content : Option CloseFrame} :
    decode payload = .ok content ↔
      match content with
      | none => payload = []
      | some c => c.code.IsSendable ∧
          payload = Bytes.ofNat 2 c.code.value.toNat ++ Bytes.ofText c.reason := by
  cases content with
  | none =>
    constructor
    · exact eq_nil_of_decode
    · intro h
      rw [h]
      rfl
  | some c =>
    constructor
    · intro h
      obtain ⟨hvalid, hpayload⟩ := closePayload_of_decode h
      exact ⟨CloseCode.isValid_iff.mp hvalid, hpayload.symm⟩
    · rintro ⟨hsend, rfl⟩
      exact decode_closePayload (CloseCode.isValid_iff.mpr hsend) c.reason

/-- What is wrong with a payload: a reason that is no text, or else something with the code. -/
theorem error_of_decode {payload : Bytes} {e : Error} (h : decode payload = .error e) :
    (e = .invalidUtf8 ∧ HasBadReason payload) ∨
      (e.closeCode? = some .protocolError ∧ ¬ HasBadReason payload) := by
  unfold decode at h
  split at h
  · cases h
  · cases h
    exact .inr ⟨rfl, not_hasBadReason_of_length (Nat.lt_succ_self 1)⟩
  · rename_i high low rest
    simp only at h
    split at h
    · rename_i hvalid
      split at h
      · cases h
      · rename_i htext
        cases h
        exact .inl ⟨rfl, hasBadReason_cons_iff.mpr
          ⟨CloseCode.isValid_iff.mp hvalid, Bytes.text?_eq_none_iff.mp htext⟩⟩
    · rename_i hvalid
      cases h
      refine .inr ⟨rfl, fun hbad => hvalid ?_⟩
      exact CloseCode.isValid_iff.mpr (hasBadReason_cons_iff.mp hbad).1

end CloseFrame

/-! ## The classes of frames -/

namespace Frame

/-- A frame bears a message: it is final, no reserved bit is set, and its payload is the message's.
A control frame carries 125 bytes at most. -/
def Bears (f : Frame) (m : Message) : Prop :=
  f.hasReserved = false ∧ f.fin = true ∧
    match m with
    | .text content => f.opcode = .text ∧ f.payload = Bytes.ofText content
    | .binary data => f.opcode = .binary ∧ f.payload = data
    | .ping data => f.opcode = .ping ∧ f.payload = data ∧ data.length ≤ 125
    | .pong data => f.opcode = .pong ∧ f.payload = data ∧ data.length ≤ 125
    | .close none => f.opcode = .close ∧ f.payload = []
    | .close (some c) => f.opcode = .close ∧ f.payload.length ≤ 125 ∧ c.code.IsSendable ∧
        f.payload = Bytes.ofNat 2 c.code.value.toNat ++ Bytes.ofText c.reason

/-- A frame is a part of a longer message, whatever its payload. -/
def IsFragment (f : Frame) : Prop :=
  f.hasReserved = false ∧ f.fin = false ∧ (f.opcode = .text ∨ f.opcode = .binary)

/-- A whole frame of text holds none, or a close frame in order gives a reason that is none. -/
def HasBadText (f : Frame) : Prop :=
  f.hasReserved = false ∧ f.fin = true ∧
    (f.opcode = .text ∧ ¬ f.payload.IsText ∨
      f.opcode = .close ∧ f.payload.length ≤ 125 ∧ CloseFrame.HasBadReason f.payload)

theorem IsFragment.not_hasBadText {f : Frame} (h : f.IsFragment) : ¬ f.HasBadText := by
  rintro ⟨-, hfin, -⟩
  rw [h.2.1] at hfin
  cases hfin

/-- A control frame is no fragment, though it may claim to be one. -/
theorem not_isFragment_of_isControl {f : Frame} (h : f.opcode.isControl = true) :
    ¬ f.IsFragment := by
  rintro ⟨-, -, ho | ho⟩ <;> rw [ho] at h <;> cases h

/-- What is wrong with a frame that breaks the rules for every frame. -/
theorem error_of_validate {f : Frame} {e : Error} (h : f.validate = .error e) :
    e.closeCode? = some .protocolError ∧ ¬ f.IsFragment ∧ ¬ f.HasBadText := by
  unfold validate at h
  split at h
  · rename_i hr
    cases h
    exact ⟨rfl, fun hf => by simp [hf.1] at hr, fun hb => by simp [hb.1] at hr⟩
  · split at h
    · rename_i hc
      split at h
      · rename_i hfin
        cases h
        exact ⟨rfl, not_isFragment_of_isControl hc, fun hb => by simp [hb.2.1] at hfin⟩
      · split at h
        · rename_i hlong
          cases h
          refine ⟨rfl, not_isFragment_of_isControl hc, ?_⟩
          rintro ⟨-, -, ⟨ho, -⟩ | ⟨-, hshort, -⟩⟩
          · rw [ho] at hc
            cases hc
          · exact Nat.not_le_of_gt hlong hshort
        · cases h
    · cases h

end Frame

namespace Message

theorem ofContent_eq_ok_iff {f : Frame} {m : Message} : ofContent f = .ok m ↔ Carries f m := by
  refine ⟨carries_of_ofContent, fun h => ?_⟩
  cases m with
  | text content =>
    obtain ⟨ho, hfin, ht⟩ := h
    simp [ofContent, ho, hfin, ht]
  | binary data =>
    obtain ⟨ho, hfin, rfl⟩ := h
    simp [ofContent, ho, hfin]
  | close content =>
    obtain ⟨ho, hc⟩ := h
    simp [ofContent, ho, hc, Except.map]
  | ping data =>
    obtain ⟨ho, rfl⟩ := h
    simp [ofContent, ho]
  | pong data =>
    obtain ⟨ho, rfl⟩ := h
    simp [ofContent, ho]

/-- The frames that bear a message are those that are taken for it. -/
theorem ofFrame_eq_ok_iff_bears {f : Frame} {m : Message} : ofFrame f = .ok m ↔ f.Bears m := by
  rw [ofFrame_eq_ok_iff, ofContent_eq_ok_iff, Frame.validate_eq_ok_iff]
  unfold Frame.Bears
  match m with
  | .text content =>
    constructor
    · rintro ⟨⟨hr, -⟩, ho, hfin, ht⟩
      exact ⟨hr, hfin, ho, Bytes.text?_eq_some_iff.mp ht⟩
    · rintro ⟨hr, hfin, ho, hp⟩
      refine ⟨⟨hr, fun hc => ?_⟩, ho, hfin, Bytes.text?_eq_some_iff.mpr hp⟩
      rw [ho] at hc
      cases hc
  | .binary data =>
    constructor
    · rintro ⟨⟨hr, -⟩, ho, hfin, hp⟩
      exact ⟨hr, hfin, ho, hp⟩
    · rintro ⟨hr, hfin, ho, hp⟩
      refine ⟨⟨hr, fun hc => ?_⟩, ho, hfin, hp⟩
      rw [ho] at hc
      cases hc
  | .ping data =>
    constructor
    · rintro ⟨⟨hr, hc⟩, ho, rfl⟩
      obtain ⟨hfin, hl⟩ := hc (by rw [ho]; rfl)
      exact ⟨hr, hfin, ho, rfl, hl⟩
    · rintro ⟨hr, hfin, ho, rfl, hl⟩
      exact ⟨⟨hr, fun _ => ⟨hfin, hl⟩⟩, ho, rfl⟩
  | .pong data =>
    constructor
    · rintro ⟨⟨hr, hc⟩, ho, rfl⟩
      obtain ⟨hfin, hl⟩ := hc (by rw [ho]; rfl)
      exact ⟨hr, hfin, ho, rfl, hl⟩
    · rintro ⟨hr, hfin, ho, rfl, hl⟩
      exact ⟨⟨hr, fun _ => ⟨hfin, hl⟩⟩, ho, rfl⟩
  | .close none =>
    constructor
    · rintro ⟨⟨hr, hc⟩, ho, hd⟩
      exact ⟨hr, (hc (by rw [ho]; rfl)).1, ho, CloseFrame.decode_eq_ok_iff.mp hd⟩
    · rintro ⟨hr, hfin, ho, hp⟩
      refine ⟨⟨hr, fun _ => ⟨hfin, ?_⟩⟩, ho, CloseFrame.decode_eq_ok_iff.mpr hp⟩
      rw [hp]
      exact Nat.zero_le _
  | .close (some c) =>
    constructor
    · rintro ⟨⟨hr, hc⟩, ho, hd⟩
      obtain ⟨hfin, hl⟩ := hc (by rw [ho]; rfl)
      exact ⟨hr, hfin, ho, hl, CloseFrame.decode_eq_ok_iff.mp hd⟩
    · rintro ⟨hr, hfin, ho, hl, hp⟩
      exact ⟨⟨hr, fun _ => ⟨hfin, hl⟩⟩, ho, CloseFrame.decode_eq_ok_iff.mpr hp⟩

/-- What is wrong with a frame that is taken for no message. -/
theorem error_of_ofFrame {f : Frame} {e : Error} (h : ofFrame f = .error e) :
    (e = .fragmentedMessage ∧ f.IsFragment) ∨ (e = .invalidUtf8 ∧ f.HasBadText) ∨
      (e.closeCode? = some .protocolError ∧ ¬ f.IsFragment ∧ ¬ f.HasBadText) := by
  replace h : (f.validate >>= fun _ => ofContent f) = .error e := h
  cases hv : f.validate with
  | error fault =>
    rw [hv] at h
    cases h
    exact .inr (.inr (Frame.error_of_validate hv))
  | ok u =>
    rw [hv] at h
    replace h : ofContent f = .error e := h
    obtain ⟨hr, hc⟩ := Frame.validate_eq_ok_iff.mp hv
    unfold ofContent at h
    split at h
    · rename_i ho
      cases h
      refine .inr (.inr ⟨rfl, ?_, ?_⟩)
      · rintro ⟨-, -, ht | hb⟩
        · simp [ho] at ht
        · simp [ho] at hb
      · rintro ⟨-, -, ⟨ht, -⟩ | ⟨hcl, -⟩⟩
        · simp [ho] at ht
        · simp [ho] at hcl
    · rename_i ho
      split at h
      · rename_i hfin
        cases h
        exact .inl ⟨rfl, hr, by simpa using hfin, .inl ho⟩
      · rename_i hfin
        split at h
        · cases h
        · rename_i ht
          cases h
          exact .inr (.inl ⟨rfl, hr, by simpa using hfin,
            .inl ⟨ho, Bytes.text?_eq_none_iff.mp ht⟩⟩)
    · rename_i ho
      split at h
      · rename_i hfin
        cases h
        exact .inl ⟨rfl, hr, by simpa using hfin, .inr ho⟩
      · cases h
    · rename_i ho
      have hctl : f.opcode.isControl = true := by rw [ho]; rfl
      obtain ⟨hfin, hl⟩ := hc hctl
      cases hd : CloseFrame.decode f.payload with
      | ok content =>
        rw [hd] at h
        cases h
      | error fault =>
        rw [hd] at h
        cases h
        obtain ⟨he, hbad⟩ | ⟨he, hgood⟩ := CloseFrame.error_of_decode hd
        · exact .inr (.inl ⟨he, hr, hfin, .inr ⟨ho, hl, hbad⟩⟩)
        · refine .inr (.inr ⟨he, Frame.not_isFragment_of_isControl hctl, ?_⟩)
          rintro ⟨-, -, ⟨ht, -⟩ | ⟨-, -, hbad⟩⟩
          · simp [ho] at ht
          · exact hgood hbad
    · cases h
    · cases h

/-- A frame is taken for the message that it bears, and for nothing if it bears none.  The code
that ends the connection then says that the message is too big if the frame is a fragment, that
its content is invalid if it holds a text that is none, and otherwise that a rule is broken. -/
theorem ofFrame_classified (f : Frame) :
    (∀ m, ofFrame f = .ok m ↔ f.Bears m) ∧
    ∀ e, ofFrame f = .error e →
      (e.closeCode? = some ⟨1009⟩ ↔ f.IsFragment) ∧
      (e.closeCode? = some ⟨1007⟩ ↔ f.HasBadText) ∧
      (e.closeCode? = some ⟨1002⟩ ↔ ¬ f.IsFragment ∧ ¬ f.HasBadText) := by
  refine ⟨fun m => ofFrame_eq_ok_iff_bears, fun e he => ?_⟩
  obtain ⟨rfl, hfrag⟩ | ⟨rfl, htext⟩ | ⟨hcode, hfrag, htext⟩ := error_of_ofFrame he
  · have hcode : Error.closeCode? .fragmentedMessage = some ⟨1009⟩ := rfl
    simp [hcode, hfrag, hfrag.not_hasBadText]
  · have hcode : Error.closeCode? .invalidUtf8 = some ⟨1007⟩ := rfl
    have hfrag : ¬ f.IsFragment := fun hf => hf.not_hasBadText htext
    simp [hcode, hfrag, htext]
  · have hcode : e.closeCode? = some ⟨1002⟩ := hcode
    simp [hcode, hfrag, htext]

/-- A close frame whose code is in order and whose reason is the byte `0xFF`, and the first part of
a text that breaks off inside a character. -/
theorem ofFrame_classified_of_brokenText :
    let reason : Frame := Frame.new .close [0x03, 0xE8, 0xFF]
    let part : Frame := { Frame.new .text [0x68, 0xC3] with fin := false }
    (ofFrame reason = .error .invalidUtf8 ∧ reason.HasBadText) ∧
      (ofFrame part = .error .fragmentedMessage ∧ part.IsFragment ∧ ¬ part.HasBadText) := by
  intro reason part
  have hreason : ofFrame (Frame.new .close [0x03, 0xE8, 0xFF]) = .error .invalidUtf8 := by rfl
  have hpart : ofFrame { Frame.new .text [0x68, 0xC3] with fin := false } =
      .error .fragmentedMessage := by rfl
  have hr := (ofFrame_classified reason).2 _ hreason
  have hp := (ofFrame_classified part).2 _ hpart
  refine ⟨⟨hreason, hr.2.1.mp rfl⟩, hpart, hp.1.mp rfl, fun hbad => ?_⟩
  have hcode := hp.2.1.mpr hbad
  revert hcode
  decide

end Message
end WebSocket
