import WebSocket.Http.Headers
import WebSocket.Http.Head
import WebSocket.Network
import WebSocket.Text.Numeral

/-
A server of few words: it reads one request until it is whole, sends a response that was laid down
in advance, and closes the connection unless it is told to hold it.
-/
namespace WebSocket
namespace Http
namespace OneShot

/-- The length that a header line states for the body. -/
def lengthOf? (line : String) : Option Nat :=
  match Text.cut? ":" line with
  | some (name, value) =>
    if Text.same name "content-length" then Text.number? 10 Text.bound64 (Text.trim value) else none
  | none => none

/-- The length that a head states for the body, or zero. -/
def bodyLength (head : Bytes) : Nat :=
  match Bytes.text? head with
  | some text => ((Text.lines text).findSome? lengthOf?).getD 0
  | none => 0

/-- Whether a byte string holds a whole request. -/
def isWhole (d : Bytes) : Bool :=
  match headSize? d with
  | some size => size + bodyLength (d.take size) ≤ d.length
  | none => false

/-- The behaviour of the server. -/
def reply (response : Bytes) (hold : Bool) : AutoReply :=
  { isComplete := isWhole
    response
    hold }

end OneShot
end Http
end WebSocket
