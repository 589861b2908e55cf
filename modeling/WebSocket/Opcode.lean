import WebSocket.Error

/-
The operation codes of frames.  Four bits name the kind of a frame; six of the sixteen values
have a meaning and the rest are reserved.  The top bit marks the control frames.
-/
namespace WebSocket

/-- The kinds of frame. -/
inductive Opcode
  | continuation
  | text
  | binary
  | close
  | ping
  | pong
deriving DecidableEq

namespace Opcode

/-- The four bits of an operation code. -/
def value : Opcode → UInt8
  | .continuation => 0x0
  | .text => 0x1
  | .binary => 0x2
  | .close => 0x8
  | .ping => 0x9
  | .pong => 0xA

/-- The name of an operation code. -/
def name : Opcode → String
  | .continuation => "Continuation"
  | .text => "Text"
  | .binary => "Binary"
  | .close => "Close"
  | .ping => "Ping"
  | .pong => "Pong"

/-- The operation codes, in the order of their values. -/
def all : List Opcode :=
  [.continuation, .text, .binary, .close, .ping, .pong]

/-- Whether a frame of this kind controls the connection instead of carrying data. -/
def isControl (o : Opcode) : Bool :=
  o.value &&& 0x8 != 0

/-- The operation code with the given value.  The values that fit four bits and have no meaning
are reserved; larger ones are none at all. -/
def ofValue (value : Nat) : Except Error Opcode :=
  match value with
  | 0x0 => .ok .continuation
  | 0x1 => .ok .text
  | 0x2 => .ok .binary
  | 0x8 => .ok .close
  | 0x9 => .ok .ping
  | 0xA => .ok .pong
  | n => .error (if n < 16 then .reservedOpcode n else .invalidOpcode n)

@[simp] theorem ofValue_value (o : Opcode) : ofValue o.value.toNat = .ok o := by
  cases o <;> rfl

theorem value_of_ofValue {n : Nat} {o : Opcode} (h : ofValue n = .ok o) : o.value.toNat = n := by
  unfold ofValue at h
  split at h <;> first | (cases h; rfl) | simp at h

end Opcode
end WebSocket
