/-
The status codes of close frames.  A code may be sent when it lies between 1000 and 4999 and is
not one of the four that are set aside for reports that never travel.
-/
namespace WebSocket

/-- The status code of a close frame. -/
structure CloseCode where
  value : UInt16
deriving DecidableEq

namespace CloseCode

/-! ## The codes with a name -/

def normal : CloseCode := ⟨1000⟩
def goingAway : CloseCode := ⟨1001⟩
def protocolError : CloseCode := ⟨1002⟩
def unsupportedData : CloseCode := ⟨1003⟩
def invalidPayload : CloseCode := ⟨1007⟩
def policyViolation : CloseCode := ⟨1008⟩
def messageTooBig : CloseCode := ⟨1009⟩
def mandatoryExtension : CloseCode := ⟨1010⟩
def internalError : CloseCode := ⟨1011⟩

/-- The code that a close frame has unless another one is chosen. -/
def default : CloseCode := normal

/-- The named codes and their names. -/
def names : List (CloseCode × String) :=
  [ (normal, "Normal"),
    (goingAway, "GoingAway"),
    (protocolError, "ProtocolError"),
    (unsupportedData, "UnsupportedData"),
    (invalidPayload, "InvalidPayload"),
    (policyViolation, "PolicyViolation"),
    (messageTooBig, "MessageTooBig"),
    (mandatoryExtension, "MandatoryExtension"),
    (internalError, "InternalError") ]

/-- The name of a code; a code without one is named by its number. -/
def name (c : CloseCode) : String :=
  match names.find? (·.1 == c) with
  | some entry => entry.2
  | none => "Other(" ++ toString c.value.toNat ++ ")"

/-- The decimal numeral of a code. -/
def text (c : CloseCode) : String :=
  toString c.value.toNat

/-- Whether a code is set aside for reports that never travel. -/
def isReserved (c : CloseCode) : Bool :=
  (1004 ≤ c.value && c.value ≤ 1006) || c.value == 1015

/-- Whether a close frame may carry a code. -/
def isValid (c : CloseCode) : Bool :=
  1000 ≤ c.value && c.value ≤ 4999 && !c.isReserved

end CloseCode
end WebSocket
