import WebSocket.Mask
import WebSocket.Opcode

/-
Frames, the units of a WebSocket connection, and the rules that every frame has to keep: no
reserved bit is set, and a control frame is whole and short.
-/
namespace WebSocket

/-- A frame.  The payload is held without its mask; `masked` records whether the frame came with
one. -/
structure Frame where
  fin : Bool
  rsv1 : Bool
  rsv2 : Bool
  rsv3 : Bool
  opcode : Opcode
  masked : Bool
  payload : Bytes
deriving DecidableEq

namespace Frame

/-- The longest payload of a control frame. -/
def maxControlPayload : Nat := 125

/-- The longest reason that fits a close frame after its code. -/
def maxCloseReason : Nat := maxControlPayload - 2

/-- A final frame without reserved bits or mask. -/
def new (opcode : Opcode) (payload : Bytes) : Frame :=
  { fin := true
    rsv1 := false
    rsv2 := false
    rsv3 := false
    opcode := opcode
    masked := false
    payload := payload }

/-- A frame of text. -/
def text (s : String) : Frame :=
  new .text (Bytes.ofText s)

/-- A frame of bytes. -/
def binary (data : Bytes) : Frame :=
  new .binary data

/-- A ping, which asks for a pong with the same payload. -/
def ping (data : Bytes) : Frame :=
  new .ping data

/-- A pong. -/
def pong (data : Bytes) : Frame :=
  new .pong data

/-- The payload of a close frame: nothing without a code, and the code before the reason. -/
def closePayload : Option CloseCode → String → Bytes
  | none, _ => []
  | some code, reason => Bytes.ofNat 2 code.value.toNat ++ Bytes.ofText reason

/-- A close frame. -/
def close (code : Option CloseCode) (reason : String) : Frame :=
  new .close (closePayload code reason)

/-- Whether one of the reserved bits is set. -/
def hasReserved (f : Frame) : Bool :=
  f.rsv1 || f.rsv2 || f.rsv3

/-- Checks the rules for every frame. -/
def validate (f : Frame) : Except Error Unit :=
  if f.hasReserved then .error .reservedBitsSet
  else if f.opcode.isControl then
    if !f.fin then .error .fragmentedControlFrame
    else if f.payload.length > maxControlPayload then
      .error (.controlFrameTooLarge f.payload.length)
    else .ok ()
  else .ok ()

/-- The frames that keep the rules. -/
theorem validate_eq_ok_iff {f : Frame} :
    f.validate = .ok () ↔ f.hasReserved = false ∧
      (f.opcode.isControl = true → f.fin = true ∧ f.payload.length ≤ maxControlPayload) := by
  unfold validate
  by_cases hr : f.hasReserved
  · simp [hr]
  · by_cases hc : f.opcode.isControl
    · by_cases hf : f.fin
      · by_cases hl : f.payload.length > maxControlPayload
        · simp [hr, hc, hf, hl]
        · simp [hr, hc, hf, hl, Nat.le_of_not_lt hl]
      · simp [hr, hc, hf]
    · simp [hr, hc]

end Frame
end WebSocket
