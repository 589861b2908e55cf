import WebSocket.Config.Limits
import WebSocket.Frame.Decoder

/-
The rules for the frames that a server receives.  They are checked on the header alone, so that a
frame that breaks one is refused before its payload arrives: a client masks, no reserved bit is
set, a control frame is whole and short, and no payload exceeds the limit.
-/
namespace WebSocket
namespace Frame

/-- Checks what the header of an incoming frame says. -/
def checkIncoming (limits : Limits) (masked reserved control fin : Bool) (length : Nat) :
    Except Error Unit :=
  if !masked then .error .unmaskedClientFrame
  else if reserved then .error .reservedBitsSet
  else if control && !fin then .error .fragmentedControlFrame
  else if control && length > maxControlPayload then .error (.controlFrameTooLarge length)
  else limits.checkFrameSize length

end Frame

namespace FrameHeader

/-- Checks the header of an incoming frame. -/
def check (limits : Limits) (h : FrameHeader) : Except Error Unit :=
  Frame.checkIncoming limits h.key.isSome h.hasReserved h.opcode.isControl h.fin h.length

end FrameHeader
end WebSocket
