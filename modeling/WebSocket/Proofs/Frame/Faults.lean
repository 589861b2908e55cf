import WebSocket.Proofs.Message.Classification
import WebSocket.Proofs.Transport.Scan

/-
Whatever is wrong with a frame, there is a close code for it: for every error of reading a header,
of the rules that are checked on it (`isFault_of_scanFrame`), and of the content
(`Message.isFault_of_ofFrame`).  So a faulty frame is never taken for the end of a connection or for
a wait that took too long.
-/
namespace WebSocket

/-- An error for which there is a close code. -/
def Error.IsFault (e : Error) : Prop :=
  ∃ code, e.closeCode? = some code

namespace Error

theorem IsFault.of_kind {e : Error} (h : e.kind = .frameProtocolError) : e.IsFault := by
  unfold IsFault closeCode?
  rw [h]
  by_cases he : e = .invalidUtf8
  · exact ⟨_, if_pos he⟩
  · exact ⟨_, if_neg he⟩

/-- A fault is reported, and is no timeout. -/
theorem IsFault.kind_ne {e : Error} (h : e.IsFault) :
    e.kind ≠ .peerClosed ∧ e.isTimeout = false := by
  obtain ⟨code, hcode⟩ := h
  unfold closeCode? at hcode
  constructor
  · intro hk
    rw [hk] at hcode
    cases hcode
  · cases e with
    | timeout fault => cases hcode
    | _ => rfl

end Error

theorem Opcode.isFault_of_ofValue {n : Nat} {e : Error} (h : ofValue n = .error e) :
    e.IsFault := by
  unfold ofValue at h
  split at h <;> cases h
  split <;> exact .of_kind rfl

namespace FrameHeader

theorem isFault_of_need {n : Nat} {d : Bytes} {e : Error} (h : need n d = .error e) :
    e.IsFault := by
  unfold need at h
  split at h <;> cases h
  exact .of_kind rfl

theorem isFault_of_readLength {bits : Nat} {d : Bytes} {e : Error}
    (h : readLength bits d = .error e) : e.IsFault := by
  unfold readLength at h
  split at h
  · cases hn : need 4 d with
    | error fault =>
      rw [hn] at h
      cases h
      exact isFault_of_need hn
    | ok u =>
      rw [hn] at h
      cases h
  · split at h
    · cases hn : need 10 d with
      | error fault =>
        rw [hn] at h
        cases h
        exact isFault_of_need hn
      | ok u =>
        rw [hn] at h
        simp only [bind, Except.bind] at h
        split at h <;> cases h
        exact .of_kind rfl
    · cases h

theorem isFault_of_readKey {masked : Bool} {position : Nat} {d : Bytes} {e : Error}
    (h : readKey masked position d = .error e) : e.IsFault := by
  unfold readKey at h
  split at h
  · cases hn : need (position + 4) d with
    | error fault =>
      rw [hn] at h
      cases h
      exact isFault_of_need hn
    | ok u =>
      rw [hn] at h
      cases h
  · cases h

theorem isFault_of_decode {d : Bytes} {e : Error} (h : decode d = .error e) : e.IsFault := by
  unfold decode at h
  split at h
  · simp only [bind, Except.bind] at h
    split at h
    · rename_i ho
      cases h
      exact Opcode.isFault_of_ofValue ho
    · split at h
      · rename_i hl
        cases h
        exact isFault_of_readLength hl
      · split at h
        · rename_i hk
          cases h
          exact isFault_of_readKey hk
        · cases h
  · cases h
    exact .of_kind rfl

theorem isFault_of_check {limits : Limits} {h : FrameHeader} {e : Error}
    (hc : h.check limits = .error e) : e.IsFault := by
  unfold check Frame.checkIncoming Limits.checkFrameSize at hc
  split at hc
  · cases hc
    exact .of_kind rfl
  split at hc
  · cases hc
    exact .of_kind rfl
  split at hc
  · cases hc
    exact .of_kind rfl
  split at hc
  · cases hc
    exact .of_kind rfl
  split at hc <;> cases hc
  exact ⟨_, rfl⟩

end FrameHeader

/-- Whatever a scan refuses a frame for is a fault. -/
theorem isFault_of_scanFrame {limits : Limits} {d : Bytes} {e : Error}
    (h : scanFrame limits d = .refused e) : e.IsFault := by
  have hs := frameScan limits d
  rw [h] at hs
  cases hs with
  | headerRefused header _ => exact FrameHeader.isFault_of_decode header
  | checkRefused _ check => exact FrameHeader.isFault_of_check check

/-- Whatever a frame carries no message for is a fault. -/
theorem Message.isFault_of_ofFrame {f : Frame} {e : Error} (h : ofFrame f = .error e) :
    e.IsFault := by
  obtain ⟨rfl, -⟩ | ⟨rfl, -⟩ | ⟨hcode, -⟩ := error_of_ofFrame h
  · exact ⟨_, rfl⟩
  · exact ⟨_, rfl⟩
  · exact ⟨_, hcode⟩

end WebSocket
