import WebSocket.Error

/-
The limits on what one client can make the server hold: the payload of a frame, and the head of
an upgrade request.
-/
namespace WebSocket

/-- Limits on sizes, in bytes. -/
structure Limits where
  maxFrameSize : Nat
  maxRequestSize : Nat
deriving DecidableEq

namespace Limits

/-- One mebibyte to a frame and 64 kibibytes to a request. -/
def default : Limits :=
  { maxFrameSize := 1024 * 1024
    maxRequestSize := 65536 }

/-- Refuses the payload of a frame that exceeds the limit. -/
def checkFrameSize (limits : Limits) (size : Nat) : Except Error Unit :=
  if size > limits.maxFrameSize then .error (.frameTooLarge size limits.maxFrameSize)
  else .ok ()

/-- Refuses a request that exceeds the limit. -/
def checkRequestSize (limits : Limits) (size : Nat) : Except Error Unit :=
  if size > limits.maxRequestSize then .error (.requestTooLarge size limits.maxRequestSize)
  else .ok ()

end Limits
end WebSocket
