import WebSocket.Http.Headers
import WebSocket.Text.Numeral
import WebSocket.Upgrade.Key

/-
Upgrade requests: the head of an HTTP request that asks to open a WebSocket connection.  The
request line comes first, then the header lines, then the demands of the protocol one by one; the
first that is not met is the error.
-/
namespace WebSocket
namespace Upgrade

open Http (Headers)

/-- An upgrade request that meets the demands of the protocol. -/
structure Request where
  method : String
  target : String
  version : String
  headers : Headers
  key : String
deriving DecidableEq

/-- The only version of the protocol that is spoken. -/
def protocolVersion : String := "13"

/-- The numbers of an HTTP version, major and minor. -/
def readVersion? (version : String) : Option (Nat × Nat) :=
  if Text.startsWith "HTTP/" version then
    match Text.cut? "." (String.ofList (version.toList.drop 5)) with
    | some (major, minor) =>
      match Text.number? 10 Text.bound32 major, Text.number? 10 Text.bound32 minor with
      | some major, some minor => some (major, minor)
      | _, _ => none
    | none => none
  else none

/-- Whether an HTTP version is 1.1 or later. -/
def isRecent (version : Nat × Nat) : Bool :=
  version.1 > 1 || (version.1 == 1 && version.2 ≥ 1)

/-- Checks that a request is made in HTTP 1.1 or later. -/
def checkVersion (version : String) : Except Error Unit :=
  match readVersion? version with
  | some numbers =>
    if isRecent numbers then .ok () else .error (.invalidHandshake (.oldVersion version))
  | none => .error (.invalidHandshake (.oldVersion version))

/-- The method, the target and the version of a request line. -/
def readRequestLine (line : String) : Except Error (String × String × String) :=
  if !Text.startsWith "GET " line then .error (.invalidHandshake (.notGet line))
  else
    match Text.pieces " " line with
    | [method, target, version] =>
      if method.isEmpty || target.isEmpty || version.isEmpty then
        .error (.invalidHandshake .malformedRequestLine)
      else
        match checkVersion version with
        | .ok () => .ok (method, target, version)
        | .error e => .error e
    | _ => .error (.invalidHandshake .malformedRequestLine)

/-- Checks that the host is named. -/
def checkHost (h : Headers) : Except Error Unit :=
  if ((h.get? "host").getD "").isEmpty then .error (.invalidHandshake .noHost) else .ok ()

/-- Checks that the request asks for this protocol. -/
def checkUpgrade (h : Headers) : Except Error Unit :=
  if h.hasToken "upgrade" "websocket" then .ok ()
  else .error (.invalidHandshake (.notUpgrade (h.get? "upgrade")))

/-- Checks that the connection itself is to change its protocol. -/
def checkConnection (h : Headers) : Except Error Unit :=
  if h.hasToken "connection" "upgrade" then .ok ()
  else .error (.invalidHandshake (.notConnectionUpgrade (h.get? "connection")))

/-- The key of the request, which has to be in order. -/
def readKey (h : Headers) : Except Error String :=
  match h.get? "sec-websocket-key" with
  | none => .error (.invalidHandshake .noKey)
  | some key =>
    match checkKey key with
    | .ok () => .ok key
    | .error e => .error e

/-- Checks that the request asks for the version that is spoken. -/
def checkProtocolVersion (h : Headers) : Except Error Unit :=
  match h.get? "sec-websocket-version" with
  | none => .error (.invalidHandshake .noVersion)
  | some version =>
    if version = protocolVersion then .ok ()
    else .error (.invalidHandshake (.unsupportedVersion version))

namespace Request

/-- The request that the lines of a head make. -/
def ofLines (requestLine : String) (lines : List String) : Except Error Request := do
  let (method, target, version) ← readRequestLine requestLine
  let headers ← Headers.ofLines lines
  checkHost headers
  checkUpgrade headers
  checkConnection headers
  let key ← readKey headers
  checkProtocolVersion headers
  return { method, target, version, headers, key }

/-- The request that a head makes. -/
def decode (head : Bytes) : Except Error Request :=
  match Bytes.text? head with
  | none => .error (.invalidHandshake .notUtf8)
  | some text =>
    match Text.lines text with
    | [] => ofLines "" []
    | requestLine :: lines => ofLines requestLine lines

/-- What the client calls itself. -/
def userAgent? (r : Request) : Option String :=
  r.headers.get? "user-agent"

/-- The site that the request comes from. -/
def origin? (r : Request) : Option String :=
  r.headers.get? "origin"

/-- The host that the request names. -/
def host? (r : Request) : Option String :=
  r.headers.get? "host"

/-- The response that accepts a request. -/
def acceptResponse (r : Request) : String :=
  "HTTP/1.1 101 Switching Protocols\r\n" ++
  "Upgrade: websocket\r\n" ++
  "Connection: Upgrade\r\n" ++
  "Sec-WebSocket-Accept: " ++ acceptance r.key ++ "\r\n\r\n"

end Request
end Upgrade
end WebSocket
