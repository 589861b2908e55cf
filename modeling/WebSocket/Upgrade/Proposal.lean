import WebSocket.Http.Field
import WebSocket.Upgrade.Policy

/-
What a client may write to open a WebSocket connection.  A proposal is the head of an upgrade
request in its parts, as they stand on the wire; what the protocol asks of it, and what a policy
tolerates, are said of the parts alone.
-/
namespace WebSocket
namespace Upgrade

open Http (Field)

/-- The head of an upgrade request in its parts: the target, the two numerals of the version, and
the header fields. -/
structure Proposal where
  target : String
  major : String
  minor : String
  fields : List Field
deriving DecidableEq

namespace Proposal

/-- The version of HTTP. -/
def version (r : Proposal) : String :=
  "HTTP/" ++ r.major ++ "." ++ r.minor

/-- The request line. -/
def requestLine (r : Proposal) : String :=
  "GET" ++ " " ++ r.target ++ " " ++ r.version

/-- The lines of a proposal.  The last one ends with the head, and so nothing stands on it. -/
def lines (r : Proposal) : List String :=
  r.requestLine :: r.fields.map Field.line ++ ["", ""]

/-- A proposal as it is written, with CR LF between its lines. -/
def text (r : Proposal) : String :=
  "\r\n".intercalate r.lines

/-- A proposal that can be read in one way: the request line has three parts and the version of
HTTP is 1.1 or later. -/
structure IsLegible (r : Proposal) : Prop where
  target_ne : r.target ≠ ""
  target_solid : ' ' ∉ r.target.toList
  requestLine_whole : ¬ ['\r', '\n'] <:+: r.requestLine.toList
  recent : ∃ major minor, Text.number? 10 Text.bound32 r.major = some major ∧
    Text.number? 10 Text.bound32 r.minor = some minor ∧ (1 < major ∨ major = 1 ∧ 1 ≤ minor)
  fields_proper : ∀ f ∈ r.fields, f.IsProper

/-- A proposal that asks for this protocol: it names a host, it wants the connection to change to
the WebSocket protocol in the version that is spoken, and its key is the Base64 form of sixteen
bytes. -/
structure Asks (r : Proposal) : Prop where
  host : ∃ host, Field.last? "host" r.fields = some host ∧ host ≠ ""
  upgrade : Field.Lists "upgrade" "websocket" r.fields
  connection : Field.Lists "connection" "upgrade" r.fields
  key : ∃ bytes : Bytes, bytes.length = 16 ∧
    Field.last? "sec-websocket-key" r.fields = some (String.ofList (Base64.encode bytes))
  version : Field.last? "sec-websocket-version" r.fields = some "13"

end Proposal

/-- A proposal that a policy has nothing against: with security on, the client calls itself by no
blocked token, and the site that asks is listed if there is a list. -/
structure Policy.Tolerates (p : Policy) (r : Proposal) : Prop where
  agent : p.security = true → ∀ agent, Field.last? "user-agent" r.fields = some agent →
    ∀ token ∈ p.blockedAgents, ¬ (Text.fold token).toList <:+: (Text.fold agent).toList
  origin : ∀ allowed, p.allowedOrigins = some allowed →
    ∃ site, Field.last? "origin" r.fields = some site ∧ ∃ entry ∈ allowed, Text.same entry site = true

end Upgrade
end WebSocket
