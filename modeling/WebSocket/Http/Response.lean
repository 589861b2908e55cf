import WebSocket.Http.Chunked
import WebSocket.Http.Headers

/-
HTTP responses: the status line, the header fields and the body.  The header fields say where the
body ends: it may come in chunks, it may state its length, and else it lasts as long as bytes
come.  Of the first two it can be told when they are complete.
-/
namespace WebSocket
namespace Http

/-- A response. -/
structure Response where
  status : Nat
  reason : String
  headers : Headers
  body : Bytes
deriving DecidableEq

/-- How the end of a body is marked. -/
inductive Framing
  | chunked
  | sized (length : Nat)
  | untilEnd
deriving DecidableEq

namespace Framing

/-- The framing that header fields announce. -/
def ofHeaders (h : Headers) : Except ResponseFault Framing :=
  if h.hasToken "transfer-encoding" "chunked" then .ok .chunked
  else
    match h.get? "content-length" with
    | none => .ok .untilEnd
    | some value =>
      match Text.number? 10 Text.bound64 value with
      | some length => .ok (.sized length)
      | none => .error (.contentLength value)

/-- The body at the front of what follows the head. -/
def readBody (d : Bytes) : Framing → Except ResponseFault Bytes
  | .chunked => Chunked.decode d
  | .sized length =>
    if d.length < length then .error (.truncated d.length length) else .ok (d.take length)
  | .untilEnd => .ok d

/-- Whether a body is known to be complete. -/
def isComplete (d : Bytes) : Framing → Bool
  | .chunked => (Chunked.decode d).isOk
  | .sized length => length ≤ d.length
  | .untilEnd => false

end Framing

namespace Response

/-- The status code and the reason of a status line. -/
def readStatusLine (line : String) : Except ResponseFault (Nat × String) :=
  let (version, rest) := (Text.cut? " " line).getD (line, "")
  let (code, reason) := (Text.cut? " " rest).getD (rest, "")
  if !Text.startsWith "HTTP/1." version then .error (.statusLine line)
  else
    match Text.number? 10 Text.bound16 code with
    | some status => .ok (status, reason)
    | none => .error (.statusCode line)

/-- The lines of the head, and what follows it. -/
def readHead (d : Bytes) : Except ResponseFault (String × List String × Bytes) :=
  match headSize? d with
  | none => .error .noHead
  | some size =>
    match Bytes.text? (d.take size) with
    | none => .error .headNotUtf8
    | some head =>
      let lines := Text.lines head
      .ok (lines.headD "", lines.tail, d.drop size)

/-- The header fields of the given lines. -/
def readHeaders (lines : List String) : Except ResponseFault Headers :=
  (Headers.ofLines lines).mapError fun e => .header e.message

/-- The response that a byte string holds, or what is wrong with it. -/
def read (d : Bytes) : Except ResponseFault Response := do
  let (statusLine, lines, rest) ← readHead d
  let (status, reason) ← readStatusLine statusLine
  let headers ← readHeaders lines
  let framing ← Framing.ofHeaders headers
  let body ← framing.readBody rest
  return { status, reason, headers, body }

/-- The response that a byte string holds. -/
def decode (d : Bytes) : Except Error Response :=
  (read d).mapError .http

/-- Whether a byte string is known to hold a whole response.  The status line is not looked at. -/
def isComplete (d : Bytes) : Bool :=
  match (do
    let (_, lines, rest) ← readHead d
    let headers ← readHeaders lines
    let framing ← Framing.ofHeaders headers
    return framing.isComplete rest : Except ResponseFault Bool) with
  | .ok complete => complete
  | .error _ => false

/-- Whether the status reports success. -/
def isSuccess (r : Response) : Bool :=
  200 ≤ r.status && r.status < 300

/-- The body as text. -/
def text (r : Response) : Except Error String :=
  match Bytes.text? r.body with
  | some text => .ok text
  | none => .error .invalidUtf8

end Response
end Http
end WebSocket
