import WebSocket.Admission.Decision
import WebSocket.CloseCode
import WebSocket.Http.Status
import WebSocket.Network.SocketError
import WebSocket.Text.Interval
import WebSocket.Text.Quoted

/-
Everything that can go wrong, by its cause.  The words of an error, its kind, the close code that
ends a connection on its account and the HTTP status that refuses a handshake are all functions
of the cause.
-/
namespace WebSocket

/-! ## Causes in detail -/

/-- What a caller asked for that cannot be done. -/
inductive ArgumentFault
  | bindAddress (text : String)
  | notPositive (field : String)
  | running
  | alreadyRunning
  | notRunning
  | noRuntime
  | invalidUrl (url why : String)
  | noTls
  | unsupportedScheme (scheme : String)
  | invalidMethod (method : String)
  | other (text : String)
deriving DecidableEq

/-- Why an upgrade request is refused as malformed. -/
inductive HandshakeFault
  | notUtf8
  | notGet (line : String)
  | malformedRequestLine
  | oldVersion (version : String)
  | noHost
  | notUpgrade (value : Option String)
  | notConnectionUpgrade (value : Option String)
  | noKey
  | keyLength (length : Nat)
  | keyBytes (count : Nat)
  | keyNotBase64
  | unsupportedVersion (version : String)
  | noVersion
  | incomplete
  | other (text : String)
deriving DecidableEq

/-- Why a header field is refused. -/
inductive HeaderFault
  | folded
  | noSeparator
  | malformedName
  | lineBreak
  | other (text : String)
deriving DecidableEq

/-- Why a frame cannot be read or written. -/
inductive FrameFault
  | lengthTopBit
  | shortBuffer (needed available : Nat)
  | other (text : String)
deriving DecidableEq

/-- Which rule of the exchange a peer broke. -/
inductive ViolationFault
  | shortClosePayload
  | strayContinuation
  | other (text : String)
deriving DecidableEq

/-- Which wait took too long. -/
inductive TimeoutFault
  | handshake (limit : Nat)
  | idle (limit : Nat)
  | response
  | other (text : String)
deriving DecidableEq

/-- Why an HTTP response cannot be decoded. -/
inductive ResponseFault
  | noHead
  | headNotUtf8
  | statusLine (line : String)
  | statusCode (line : String)
  | header (why : String)
  | contentLength (value : String)
  | truncated (available declared : Nat)
  | chunkSizeUnterminated
  | chunkSizeNotText
  | chunkSize (text : String)
  | chunkSizeTooLarge
  | chunkTruncated
  | chunkUnterminated
  | tooLarge (limit : Nat)
  | other (text : String)
deriving DecidableEq

/-- What a refused client gave itself away by. -/
inductive ClientFault
  | userAgent (token : String)
  | other (text : String)
deriving DecidableEq

/-- Everything that can go wrong. -/
inductive Error
  | socket (error : SocketError)
  | invalidArgument (fault : ArgumentFault)
  | invalidHandshake (fault : HandshakeFault)
  | requestTooLarge (size max : Nat)
  | blockedClient (fault : ClientFault)
  | originNotAllowed (origin : String)
  | invalidHeaderValue (header : String) (fault : HeaderFault)
  | admissionRefused (decision : Admission.Decision)
  | invalidFrame (fault : FrameFault)
  | protocolViolation (fault : ViolationFault)
  | invalidUtf8
  | frameTooLarge (size max : Nat)
  | payloadTooLargeForPlatform (size max : Nat)
  | fragmentedMessage
  | connectionClosed (code : Option Nat)
  | invalidCloseCode (code : CloseCode)
  | reservedOpcode (value : Nat)
  | fragmentedControlFrame
  | controlFrameTooLarge (size : Nat)
  | unmaskedClientFrame
  | reservedBitsSet
  | incompleteFrame (needed : Nat)
  | invalidOpcode (value : Nat)
  | timeout (fault : TimeoutFault)
  | http (fault : ResponseFault)
  | io (text : String) (code : Option Int)
deriving DecidableEq

/-- The kinds of error that callbacks tell apart. -/
inductive ErrorKind
  | bindFailed
  | acceptFailed
  | invalidHandshake
  | requestTooLarge
  | blockedClient
  | admissionRefused
  | frameProtocolError
  | payloadTooLarge
  | peerClosed
  | ioFailure
  | invalidArgument
deriving DecidableEq

/-! ## Words -/

namespace ArgumentFault

/-- The words of a fault. -/
def message : ArgumentFault → String
  | .bindAddress text => "bind address is not an IPv4 or IPv6 literal: " ++ text
  | .notPositive field => field ++ " must be greater than zero"
  | .running => "cannot reconfigure a running server"
  | .alreadyRunning => "server is already running"
  | .notRunning => "server is not running"
  | .noRuntime => "process_events requires a Tokio runtime"
  | .invalidUrl url why => "invalid URL " ++ url ++ ": " ++ why
  | .noTls => "https is not supported"
  | .unsupportedScheme scheme => "unsupported scheme: " ++ scheme
  | .invalidMethod method => "invalid method: " ++ method
  | .other text => text

end ArgumentFault

namespace HandshakeFault

/-- The value of a header, or the remark that it is missing. -/
def valueOrMissing (value : Option String) : String :=
  value.getD "(missing)"

/-- The words of a fault. -/
def message : HandshakeFault → String
  | .notUtf8 => "Invalid UTF-8"
  | .notGet line => "Expected GET request, got: " ++ line
  | .malformedRequestLine => "Invalid request line"
  | .oldVersion version => "Expected HTTP/1.1 or later, got " ++ version
  | .noHost => "Missing or empty Host header"
  | .notUpgrade value => "Invalid Upgrade header: " ++ valueOrMissing value
  | .notConnectionUpgrade value => "Invalid Connection header: " ++ valueOrMissing value
  | .noKey => "Missing Sec-WebSocket-Key header"
  | .keyLength length => "Sec-WebSocket-Key must be 24 characters, got " ++ toString length
  | .keyBytes count => "Sec-WebSocket-Key must be 16 bytes, got " ++ toString count
  | .keyNotBase64 => "Invalid Sec-WebSocket-Key: not valid Base64"
  | .unsupportedVersion version =>
    "Unsupported WebSocket version: " ++ version ++ " (expected 13)"
  | .noVersion => "Missing Sec-WebSocket-Version header"
  | .incomplete => "Incomplete request headers"
  | .other text => text

end HandshakeFault

namespace HeaderFault

/-- The words of a fault. -/
def message : HeaderFault → String
  | .folded => "folded header lines are not supported"
  | .noSeparator => "missing ':' separator"
  | .malformedName => "invalid header name"
  | .lineBreak => "contains CR or LF characters"
  | .other text => text

end HeaderFault

namespace FrameFault

/-- The words of a fault. -/
def message : FrameFault → String
  | .lengthTopBit => "64-bit payload length must have its most significant bit clear"
  | .shortBuffer needed available =>
    "Buffer too small: need " ++ toString needed ++ " bytes, have " ++ toString available
  | .other text => text

end FrameFault

namespace ViolationFault

/-- The words of a fault. -/
def message : ViolationFault → String
  | .shortClosePayload => "Close payload must be empty or at least 2 bytes"
  | .strayContinuation => "Continuation frame without a fragmented message"
  | .other text => text

end ViolationFault

namespace TimeoutFault

/-- The words of a fault. -/
def message : TimeoutFault → String
  | .handshake limit => "handshake timed out after " ++ Text.interval limit
  | .idle limit => "idle timed out after " ++ Text.interval limit
  | .response => "timed out reading HTTP response"
  | .other text => text

end TimeoutFault

namespace ResponseFault

/-- The words of a fault. -/
def message : ResponseFault → String
  | .noHead => "response ended before the header block"
  | .headNotUtf8 => "response head is not UTF-8"
  | .statusLine line => "unexpected status line: " ++ line
  | .statusCode line => "invalid status code in: " ++ line
  | .header why => "bad response header: " ++ why
  | .contentLength value => "invalid Content-Length: " ++ value
  | .truncated available declared =>
    "body truncated: " ++ toString available ++ " of " ++ toString declared ++ " bytes"
  | .chunkSizeUnterminated => "chunk size line not terminated"
  | .chunkSizeNotText => "chunk size is not ASCII"
  | .chunkSize text => "invalid chunk size: " ++ text
  | .chunkSizeTooLarge => "chunk size too large"
  | .chunkTruncated => "chunk truncated"
  | .chunkUnterminated => "chunk not followed by CRLF"
  | .tooLarge limit => "response exceeds " ++ toString limit ++ " bytes"
  | .other text => text

end ResponseFault

namespace ClientFault

/-- The words of a fault. -/
def message : ClientFault → String
  | .userAgent token => "user agent matches blocked token " ++ Text.quoted token
  | .other text => text

end ClientFault

namespace Error

/-- The name of an error. -/
def name : Error → String
  | .socket _ => "Socket"
  | .invalidArgument _ => "InvalidArgument"
  | .invalidHandshake _ => "InvalidHandshake"
  | .requestTooLarge _ _ => "RequestTooLarge"
  | .blockedClient _ => "BlockedClient"
  | .originNotAllowed _ => "OriginNotAllowed"
  | .invalidHeaderValue _ _ => "InvalidHeaderValue"
  | .admissionRefused _ => "AdmissionRefused"
  | .invalidFrame _ => "InvalidFrame"
  | .protocolViolation _ => "ProtocolViolation"
  | .invalidUtf8 => "InvalidUtf8"
  | .frameTooLarge _ _ => "FrameTooLarge"
  | .payloadTooLargeForPlatform _ _ => "PayloadTooLargeForPlatform"
  | .fragmentedMessage => "FragmentedMessage"
  | .connectionClosed _ => "ConnectionClosed"
  | .invalidCloseCode _ => "InvalidCloseCode"
  | .reservedOpcode _ => "ReservedOpcode"
  | .fragmentedControlFrame => "FragmentedControlFrame"
  | .controlFrameTooLarge _ => "ControlFrameTooLarge"
  | .unmaskedClientFrame => "UnmaskedClientFrame"
  | .reservedBitsSet => "ReservedBitsSet"
  | .incompleteFrame _ => "IncompleteFrame"
  | .invalidOpcode _ => "InvalidOpcode"
  | .timeout _ => "Timeout"
  | .http _ => "Http"
  | .io _ _ => "Io"

/-- An optional number in words. -/
def optionText : Option Nat → String
  | none => "None"
  | some n => "Some(" ++ toString n ++ ")"

/-- The words of an error. -/
def message : Error → String
  | .socket error => error.text
  | .invalidArgument fault => "Invalid argument: " ++ fault.message
  | .invalidHandshake fault => "Invalid handshake: " ++ fault.message
  | .requestTooLarge size max =>
    "Request too large: " ++ toString size ++ " bytes (max: " ++ toString max ++ ")"
  | .blockedClient fault => "Blocked client: " ++ fault.message
  | .originNotAllowed origin => "Origin not allowed: " ++ origin
  | .invalidHeaderValue header fault =>
    "Invalid value for header " ++ header ++ ": " ++ fault.message
  | .admissionRefused decision => "Admission refused: " ++ decision.text
  | .invalidFrame fault => "Invalid frame: " ++ fault.message
  | .protocolViolation fault => "Protocol violation: " ++ fault.message
  | .invalidUtf8 => "Invalid UTF-8 in text frame"
  | .frameTooLarge size max =>
    "Frame too large: " ++ toString size ++ " bytes (max: " ++ toString max ++ ")"
  | .payloadTooLargeForPlatform size max =>
    "Payload too large for platform: " ++ toString size ++ " bytes (max: " ++ toString max ++ ")"
  | .fragmentedMessage => "Fragmented messages are not supported"
  | .connectionClosed code => "Connection closed: " ++ optionText code
  | .invalidCloseCode code => "Invalid close code: " ++ code.text
  | .reservedOpcode value => "Reserved opcode: 0x" ++ Text.hex value
  | .fragmentedControlFrame => "Control frames cannot be fragmented"
  | .controlFrameTooLarge size =>
    "Control frame payload too large: " ++ toString size ++ " bytes (max: 125)"
  | .unmaskedClientFrame => "Client frame must be masked"
  | .reservedBitsSet => "Reserved bits set without negotiated extension"
  | .incompleteFrame needed => "Incomplete frame: need " ++ toString needed ++ " more bytes"
  | .invalidOpcode value => "Invalid opcode: 0x" ++ Text.hex value
  | .timeout fault => "Timed out: " ++ fault.message
  | .http fault => "Invalid HTTP response: " ++ fault.message
  | .io text _ => "I/O error: " ++ text

end Error

namespace ErrorKind

/-- The name of a kind. -/
def name : ErrorKind → String
  | .bindFailed => "BindFailed"
  | .acceptFailed => "AcceptFailed"
  | .invalidHandshake => "InvalidHandshake"
  | .requestTooLarge => "RequestTooLarge"
  | .blockedClient => "BlockedClient"
  | .admissionRefused => "AdmissionRefused"
  | .frameProtocolError => "FrameProtocolError"
  | .payloadTooLarge => "PayloadTooLarge"
  | .peerClosed => "PeerClosed"
  | .ioFailure => "IOFailure"
  | .invalidArgument => "InvalidArgument"

/-- The kind of a failed socket operation. -/
def ofSocket : SocketErrorKind → ErrorKind
  | .createFailed => .bindFailed
  | .bindFailed => .bindFailed
  | .listenFailed => .bindFailed
  | .acceptFailed => .acceptFailed
  | .connectionClosed => .peerClosed
  | .invalidArgument => .invalidArgument
  | .connectFailed => .ioFailure
  | .sendFailed => .ioFailure
  | .recvFailed => .ioFailure
  | .wouldBlock => .ioFailure

end ErrorKind

namespace Error

/-! ## What follows from an error -/

/-- The kind of an error. -/
def kind : Error → ErrorKind
  | .socket error => .ofSocket error.kind
  | .invalidArgument _ => .invalidArgument
  | .invalidHandshake _ => .invalidHandshake
  | .invalidHeaderValue _ _ => .invalidHandshake
  | .requestTooLarge _ _ => .requestTooLarge
  | .blockedClient _ => .blockedClient
  | .originNotAllowed _ => .blockedClient
  | .admissionRefused _ => .admissionRefused
  | .invalidFrame _ => .frameProtocolError
  | .protocolViolation _ => .frameProtocolError
  | .invalidUtf8 => .frameProtocolError
  | .invalidCloseCode _ => .frameProtocolError
  | .reservedOpcode _ => .frameProtocolError
  | .fragmentedControlFrame => .frameProtocolError
  | .controlFrameTooLarge _ => .frameProtocolError
  | .unmaskedClientFrame => .frameProtocolError
  | .reservedBitsSet => .frameProtocolError
  | .incompleteFrame _ => .frameProtocolError
  | .invalidOpcode _ => .frameProtocolError
  | .frameTooLarge _ _ => .payloadTooLarge
  | .payloadTooLargeForPlatform _ _ => .payloadTooLarge
  | .fragmentedMessage => .payloadTooLarge
  | .connectionClosed _ => .peerClosed
  | .timeout _ => .ioFailure
  | .http _ => .ioFailure
  | .io _ _ => .ioFailure

/-- The system's error number, if the error came from the system. -/
def osCode : Error → Option Int
  | .socket error => error.fault.osCode
  | .io _ code => code
  | _ => none

/-- The code of the close frame that ends an open connection on account of an error. -/
def closeCode? (e : Error) : Option CloseCode :=
  match e.kind with
  | .payloadTooLarge => some CloseCode.messageTooBig
  | .frameProtocolError =>
    if e = .invalidUtf8 then some CloseCode.invalidPayload else some CloseCode.protocolError
  | _ => none

/-- The status of the HTTP response that refuses a handshake on account of an error. -/
def status? : Error → Option Http.Status
  | .invalidHandshake _ => some .badRequest
  | .invalidHeaderValue _ _ => some .badRequest
  | .blockedClient _ => some .badRequest
  | .originNotAllowed _ => some .forbidden
  | .requestTooLarge _ _ => some .payloadTooLarge
  | .admissionRefused _ => some .tooManyRequests
  | _ => none

/-- Whether the error says that a wait took too long. -/
def isTimeout : Error → Bool
  | .timeout _ => true
  | _ => false

/-- The error that a failed read or write of a connection amounts to. -/
def ofFailure (failure : IoFailure) : Error :=
  match failure.cause with
  | .connectionReset => .connectionClosed none
  | .connectionAborted => .connectionClosed none
  | .brokenPipe => .connectionClosed none
  | .unexpectedEnd => .connectionClosed none
  | .timedOut => .timeout (.other failure.text)
  | .wouldBlock => .timeout (.other failure.text)
  | .interrupted => .io failure.text failure.code
  | .other => .io failure.text failure.code

end Error

/-- A computation of two steps succeeds when both do. -/
theorem bind_eq_ok_iff {ε α β : Type} {x : Except ε α} {f : α → Except ε β} {b : β} :
    x >>= f = .ok b ↔ ∃ a, x = .ok a ∧ f a = .ok b := by
  cases x <;> simp [bind, Except.bind]

end WebSocket
