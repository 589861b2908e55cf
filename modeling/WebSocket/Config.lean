import WebSocket.Address
import WebSocket.Config.Limits
import WebSocket.Upgrade.Policy

/-
The configuration of a server: where it listens, whom it takes, how much and how long it waits.
-/
namespace WebSocket

/-- How long a connection waits, in milliseconds.  Without a limit a wait has no end. -/
structure Timeouts where
  /-- For the head of the upgrade request. -/
  handshake : Option Nat
  /-- For the next frame of an open connection. -/
  idle : Option Nat
  /-- For the close frame of the peer after the server has sent its own. -/
  close : Nat
deriving DecidableEq

namespace Timeouts

/-- Thirty seconds for the head, none for frames, two seconds for the close. -/
def default : Timeouts :=
  { handshake := some 30000
    idle := none
    close := 2000 }

end Timeouts

/-- The configuration of a server. -/
structure Config where
  bindAddress : String
  port : Nat
  security : Bool
  maxConnections : Nat
  maxConnectionsPerIp : Nat
  maxConnectionsPerMinute : Nat
  backlog : Int
  limits : Limits
  timeouts : Timeouts
  allowedOrigins : Option (List String)
  blockedAgents : List String
  rejectWithStatus : Bool
deriving DecidableEq

namespace Config

/-- The configuration that a server has unless another one is chosen. -/
def default : Config :=
  { bindAddress := "0.0.0.0"
    port := 8080
    security := false
    maxConnections := 50
    maxConnectionsPerIp := 5
    maxConnectionsPerMinute := 10
    backlog := 128
    limits := .default
    timeouts := .default
    allowedOrigins := none
    blockedAgents := Upgrade.defaultBlockedAgents
    rejectWithStatus := true }

/-- The policy towards upgrade requests. -/
def policy (c : Config) : Upgrade.Policy :=
  { maxRequestSize := c.limits.maxRequestSize
    security := c.security
    blockedAgents := c.blockedAgents
    allowedOrigins := c.allowedOrigins }

/-- The numbers that have to be positive, by the names of their fields. -/
def positives (c : Config) : List (String × Nat) :=
  [ ("max_connections", c.maxConnections),
    ("max_connections_per_ip", c.maxConnectionsPerIp),
    ("max_connections_per_minute", c.maxConnectionsPerMinute),
    ("max_frame_size", c.limits.maxFrameSize),
    ("max_request_size", c.limits.maxRequestSize) ]

/-- Checks a configuration.  The first field that is out of order is the error. -/
def validate (c : Config) : Except Error Unit :=
  if !Address.isV4Text c.bindAddress && !Address.isV6Text c.bindAddress then
    .error (.invalidArgument (.bindAddress c.bindAddress))
  else
    match c.positives.find? fun entry => entry.2 == 0 with
    | some entry => .error (.invalidArgument (.notPositive entry.1))
    | none =>
      if c.backlog ≤ 0 then .error (.invalidArgument (.notPositive "backlog")) else .ok ()

/-! ## Text -/

/-- A record in braces. -/
def recordText (name : String) (fields : List (String × String)) : String :=
  name ++ " \x7b " ++
    ", ".intercalate (fields.map fun field => field.1 ++ ": " ++ field.2) ++ " \x7d"

/-- A list of quoted texts. -/
def listText (items : List String) : String :=
  "[" ++ ", ".intercalate (items.map Text.quoted) ++ "]"

/-- A value that may be absent. -/
def optionText : Option String → String
  | none => "None"
  | some inner => "Some(" ++ inner ++ ")"

/-- The whole configuration in words. -/
def text (c : Config) : String :=
  recordText "ServerConfig"
    [ ("bind_address", Text.quoted c.bindAddress),
      ("port", toString c.port),
      ("security_enabled", toString c.security),
      ("max_connections", toString c.maxConnections),
      ("max_connections_per_ip", toString c.maxConnectionsPerIp),
      ("max_connections_per_minute", toString c.maxConnectionsPerMinute),
      ("backlog", toString c.backlog),
      ("limits",
        recordText "Limits"
          [ ("max_frame_size", toString c.limits.maxFrameSize),
            ("max_request_size", toString c.limits.maxRequestSize) ]),
      ("timeouts",
        recordText "Timeouts"
          [ ("handshake", optionText (c.timeouts.handshake.map Text.interval)),
            ("idle", optionText (c.timeouts.idle.map Text.interval)),
            ("close", Text.interval c.timeouts.close) ]),
      ("allowed_origins", optionText (c.allowedOrigins.map listText)),
      ("blocked_user_agents", listText c.blockedAgents),
      ("reject_with_status", toString c.rejectWithStatus) ]

end Config
end WebSocket
