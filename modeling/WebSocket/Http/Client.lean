import WebSocket.Http.Response
import WebSocket.Network.Resolver
import WebSocket.Network.Socket
import WebSocket.Url

/-
A client for HTTP.  Every request has a connection of its own; the response is read until it is
complete or the server closes, and no further than the client's limit.  The client writes the
host, its own name, the end of the connection and the length of the body itself, so that a caller
cannot; what else a caller gives must not end its line.
-/
namespace WebSocket
namespace Http

/-- A client. -/
structure Client where
  userAgent : String
  /-- How long to wait for further bytes of a response, in milliseconds. -/
  timeout : Option Nat
  maxResponseSize : Nat
  resolver : Resolver

namespace Client

/-- How many bytes are received at once. -/
def readSize : Nat := 8192

/-- The client that is used unless another one is chosen. -/
def default : Client :=
  { userAgent := "wsgate/0.1.0"
    timeout := some 30000
    maxResponseSize := 16 * 1024 * 1024
    resolver := .trial }

/-! ## Requests -/

/-- The fields that the client writes itself. -/
def ownNames : List String :=
  ["host", "user-agent", "connection", "content-length"]

/-- Whether the client writes a field itself. -/
def isOwn (name : String) : Bool :=
  ownNames.any fun own => Text.same own name

/-- Whether a method is written: one or more capital letters. -/
def isMethod (method : String) : Bool :=
  !method.isEmpty && method.toList.all Char.isUpper

/-- The methods whose requests state a length even without a body. -/
def bodyMethods : List String :=
  ["POST", "PUT", "PATCH"]

/-- What a request is addressed to. -/
structure Target where
  host : Host
  /-- The port, unless it is the usual one. -/
  port : Option Nat
  path : String
  query : Option String
deriving DecidableEq

namespace Target

/-- The usual port. -/
def usualPort : Nat := 80

/-- The target of a URL, which has to be one of the scheme that is spoken. -/
def ofUrl : Url → Except Error Target
  | .web scheme host port path query =>
    if scheme = "http" then .ok { host, port, path, query }
    else if scheme = "https" then .error (.invalidArgument .noTls)
    else .error (.invalidArgument (.unsupportedScheme scheme))
  | .other scheme => .error (.invalidArgument (.unsupportedScheme scheme))

/-- The target that a text addresses. -/
def ofText (url : String) : Except Error Target :=
  match Url.parse url with
  | .ok u => ofUrl u
  | .error fault => .error (.invalidArgument (.invalidUrl url fault.message))

/-- The path and the query, as a request line gives them. -/
def line (t : Target) : String :=
  match t.query with
  | some query => t.path ++ "?" ++ query
  | none => t.path

/-- The host and the port, as a header field gives them. -/
def hostField (t : Target) : String :=
  match t.port with
  | some port => t.host.text ++ ":" ++ toString port
  | none => t.host.text

end Target

/-- The fields that a caller adds. -/
def callerFields (h : Headers) : List (String × String) :=
  h.entries.filter fun field => !isOwn field.1

/-- Checks the values of fields. -/
def checkFields : List (String × String) → Except Error Unit
  | [] => .ok ()
  | (name, value) :: rest =>
    match Headers.checkValue name value with
    | .ok () => checkFields rest
    | .error e => .error e

/-- The field that states the length of a body, if one is to state it. -/
def lengthField (method : String) (body : Bytes) : List (String × String) :=
  if !body.isEmpty || bodyMethods.contains method then
    [("Content-Length", toString body.length)]
  else []

/-- All fields of a request, in their order. -/
def fields (c : Client) (method : String) (t : Target) (h : Headers) (body : Bytes) :
    List (String × String) :=
  [("Host", t.hostField), ("User-Agent", c.userAgent), ("Connection", "close")] ++
    callerFields h ++ lengthField method body

/-- A field on a line of its own. -/
def fieldLine (field : String × String) : String :=
  field.1 ++ ": " ++ field.2 ++ "\r\n"

/-- The head of a request. -/
def head (c : Client) (method : String) (t : Target) (h : Headers) (body : Bytes) : String :=
  method ++ " " ++ t.line ++ " HTTP/1.1\r\n" ++
    String.join ((c.fields method t h body).map fieldLine) ++ "\r\n"

/-- The bytes of a request. -/
def encodeRequest (c : Client) (method : String) (t : Target) (h : Headers) (body : Bytes) :
    Except Error Bytes := do
  Headers.checkValue "User-Agent" c.userAgent
  checkFields (callerFields h)
  return Bytes.ofText (c.head method t h body) ++ body

/-! ## Connections -/

/-- The addresses of a host. -/
def addresses (c : Client) : Host → Except SocketError (List Address)
  | .ipv4 a => .ok [.v4 a]
  | .ipv6 a => .ok [.v6 a]
  | .domain name =>
    match c.resolver.lookup name with
    | .ok found => .ok found
    | .error why => .error ⟨.connectFailed, .unresolved name why⟩

/-- Connects to the first address that lets itself be connected to.  `failure` is reported when
none does. -/
def connectFirst (c : Client) (port : Nat) (failure : SocketError) :
    List Address → SocketAction Socket
  | [] => throw failure
  | a :: rest => do
    let socket ← Socket.create a.family
    match ← outcome (socket.connect a.text port) with
    | .ok () =>
      socket.setReadTimeout c.timeout
      return socket
    | .error e =>
      let _ ← socket.close
      c.connectFirst port e rest

/-- Connects to a target. -/
def connect (c : Client) (t : Target) : SocketAction Socket := do
  let found ← (c.addresses t.host : SocketAction _)
  c.connectFirst (t.port.getD Target.usualPort) ⟨.connectFailed, .noAddresses⟩ found

/-! ## Responses -/

/-- How far the reading of a response has come. -/
inductive Progress
  | more (raw : Bytes)
  | done (result : Except Error Bytes)

/-- Takes up what one call of receive brings.  The limit counts before completeness does. -/
def absorb (c : Client) (raw : Bytes) : Except SocketError Bytes → Progress
  | .ok chunk =>
    let raw := raw ++ chunk
    if raw.length > c.maxResponseSize then .done (.error (.http (.tooLarge c.maxResponseSize)))
    else if Response.isComplete raw then .done (.ok raw)
    else .more raw
  | .error e =>
    if e.kind = .connectionClosed then .done (.ok raw)
    else if e.isWouldBlock then .done (.error (.timeout .response))
    else .done (.error (.socket e))

/-- Reads a response behind what has been read of it, in up to `fuel` calls of `receive`. -/
def readFrom (c : Client) (receive : StateM σ (Except SocketError Bytes)) :
    (fuel : Nat) → (raw : Bytes) → ExceptT Error (StateM σ) Bytes
  | 0, raw => pure raw
  | fuel + 1, raw => do
    match c.absorb raw (← ExceptT.lift receive) with
    | .more raw => c.readFrom receive fuel raw
    | .done (.ok raw) => return raw
    | .done (.error e) => throw e

/-- Reads a response.  Every call but the last brings a byte, and more than the limit allows are
the last. -/
def readResponse (c : Client) (receive : StateM σ (Except SocketError Bytes)) :
    ExceptT Error (StateM σ) Bytes :=
  c.readFrom receive (c.maxResponseSize + 2) []

/-- Sends a request and reads the response. -/
def exchange (c : Client) (socket : Socket) (bytes : Bytes) : SystemAction Bytes := do
  onSocket (socket.sendAll bytes)
  c.readResponse (socket.receive readSize).run

/-- Makes a request on a connection of its own. -/
def request (c : Client) (method url : String) (h : Headers) (body : Bytes) :
    SystemAction Response := do
  let target ← (Target.ofText url : SystemAction _)
  if !isMethod method then throw (.invalidArgument (.invalidMethod method))
  let bytes ← (c.encodeRequest method target h body : SystemAction _)
  let socket ← onSocket (c.connect target)
  let result ← outcome (c.exchange socket bytes)
  let _ ← ExceptT.lift socket.close
  Response.decode (← result)

/-- Asks for a document. -/
def get (c : Client) (url : String) : SystemAction Response :=
  c.request "GET" url .empty []

/-- Hands in a document of a given type. -/
def post (c : Client) (url : String) (body : Bytes) (contentType : String) : SystemAction Response :=
  c.request "POST" url (Headers.empty.insert "Content-Type" contentType) body

end Client
end Http
end WebSocket
