import WebSocket.Frame
import WebSocket.Text

/-
Messages: what a frame means once it has been found in order.  Text has to be UTF-8, a close
frame carries nothing or a valid code with a reason, and messages in several frames are not taken.
-/
namespace WebSocket

/-- What a close frame says. -/
structure CloseFrame where
  code : CloseCode
  reason : String
deriving DecidableEq

namespace CloseFrame

/-- What the payload of a close frame says, if it says anything. -/
def decode : Bytes → Except Error (Option CloseFrame)
  | [] => .ok none
  | [_] => .error (.protocolViolation .shortClosePayload)
  | high :: low :: rest =>
    let code : CloseCode := ⟨UInt16.ofNat (Bytes.toNat [high, low])⟩
    if code.isValid then
      match Bytes.text? rest with
      | some reason => .ok (some ⟨code, reason⟩)
      | none => .error .invalidUtf8
    else .error (.invalidCloseCode code)

end CloseFrame

/-- A message. -/
inductive Message
  | text (content : String)
  | binary (data : Bytes)
  | close (content : Option CloseFrame)
  | ping (data : Bytes)
  | pong (data : Bytes)
deriving DecidableEq

namespace Message

/-- The message that a frame in order carries by its kind. -/
def ofContent (f : Frame) : Except Error Message :=
  match f.opcode with
  | .continuation => .error (.protocolViolation .strayContinuation)
  | .text =>
    if !f.fin then .error .fragmentedMessage
    else
      match Bytes.text? f.payload with
      | some content => .ok (.text content)
      | none => .error .invalidUtf8
  | .binary => if !f.fin then .error .fragmentedMessage else .ok (.binary f.payload)
  | .close => (CloseFrame.decode f.payload).map .close
  | .ping => .ok (.ping f.payload)
  | .pong => .ok (.pong f.payload)

/-- The message that a frame carries. -/
def ofFrame (f : Frame) : Except Error Message := do
  f.validate
  ofContent f

/-- A frame carries a message when it keeps the rules and its content is in order. -/
theorem ofFrame_eq_ok_iff {f : Frame} {m : Message} :
    ofFrame f = .ok m ↔ f.validate = .ok () ∧ ofContent f = .ok m := by
  show (f.validate >>= fun _ => ofContent f) = .ok m ↔ _
  cases hv : f.validate with
  | error e => exact ⟨(nomatch ·), (nomatch ·.1)⟩
  | ok u => exact ⟨fun h => ⟨rfl, h⟩, fun h => h.2⟩

/-- What it is for a frame to carry a message, rules aside. -/
def Carries (f : Frame) : Message → Prop
  | .text content => f.opcode = .text ∧ f.fin = true ∧ Bytes.text? f.payload = some content
  | .binary data => f.opcode = .binary ∧ f.fin = true ∧ f.payload = data
  | .close content => f.opcode = .close ∧ CloseFrame.decode f.payload = .ok content
  | .ping data => f.opcode = .ping ∧ f.payload = data
  | .pong data => f.opcode = .pong ∧ f.payload = data

theorem carries_of_ofContent {f : Frame} {m : Message} (h : ofContent f = .ok m) :
    Carries f m := by
  unfold ofContent at h
  split at h
  · cases h
  · rename_i ho
    split at h
    · cases h
    · rename_i hfin
      split at h
      · rename_i content ht
        cases h
        exact ⟨ho, by simpa using hfin, ht⟩
      · cases h
  · rename_i ho
    split at h
    · cases h
    · rename_i hfin
      cases h
      exact ⟨ho, by simpa using hfin, rfl⟩
  · rename_i ho
    cases hc : CloseFrame.decode f.payload with
    | error e =>
      rw [hc] at h
      cases h
    | ok content =>
      rw [hc] at h
      cases h
      exact ⟨ho, hc⟩
  · rename_i ho
    cases h
    exact ⟨ho, rfl⟩
  · rename_i ho
    cases h
    exact ⟨ho, rfl⟩

/-- The frame that carries a message.  A reason that is too long for a close frame is cut off
before the first character that does not fit. -/
def toFrame : Message → Frame
  | .text content => Frame.text content
  | .binary data => Frame.binary data
  | .ping data => Frame.ping data
  | .pong data => Frame.pong data
  | .close none => Frame.close none ""
  | .close (some c) => Frame.close (some c.code) (Text.clip Frame.maxCloseReason c.reason)

end Message
end WebSocket
