import WebSocket.Bytes

/-
The HTTP status codes that answer an upgrade request, and the responses that refuse one: a short
plain text that repeats the reason, after which the connection closes.
-/
namespace WebSocket
namespace Http

/-- The status codes that the server sends. -/
inductive Status
  | switchingProtocols
  | badRequest
  | forbidden
  | payloadTooLarge
  | tooManyRequests
deriving DecidableEq

namespace Status

/-- The three digits of a status, as a number. -/
def code : Status → Nat
  | .switchingProtocols => 101
  | .badRequest => 400
  | .forbidden => 403
  | .payloadTooLarge => 413
  | .tooManyRequests => 429

/-- The reason phrase of a status. -/
def reason : Status → String
  | .switchingProtocols => "Switching Protocols"
  | .badRequest => "Bad Request"
  | .forbidden => "Forbidden"
  | .payloadTooLarge => "Payload Too Large"
  | .tooManyRequests => "Too Many Requests"

/-- The code and the reason, as a status line gives them. -/
def text (s : Status) : String :=
  toString s.code ++ " " ++ s.reason

/-- The whole response that refuses a request with this status. -/
def refusal (s : Status) : String :=
  "HTTP/1.1 " ++ s.text ++ "\r\n" ++
  "Content-Type: text/plain\r\n" ++
  "Content-Length: " ++ toString s.reason.utf8ByteSize ++ "\r\n" ++
  "Connection: close\r\n\r\n" ++
  s.reason

/-- The bytes of the response that refuses a request. -/
def refusalBytes (s : Status) : Bytes :=
  Bytes.ofText s.refusal

end Status
end Http
end WebSocket
