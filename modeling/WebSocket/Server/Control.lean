import WebSocket.Server

/-
A server in the hands of a program, which changes it in place.  What an operation has changed before
it fails stays changed, so that it takes care of what to do first.
-/
namespace WebSocket

/-- An operation of a program on the server that it holds, and on the system. -/
abbrev Control := ExceptT Error (StateM (Server × System))

/-- A setting of the configuration, or all of it. -/
inductive Setting
  | port (number : Nat)
  | bindAddress (text : String)
  | security (enabled : Bool)
  | maxConnections (max : Nat)
  | maxConnectionsPerIp (max : Nat)
  | maxConnectionsPerMinute (max : Nat)
  | all (config : Config)

/-- The configuration with a setting. -/
def Setting.apply : Setting → Config → Config
  | .port number, c => { c with port := number }
  | .bindAddress text, c => { c with bindAddress := text }
  | .security enabled, c => { c with security := enabled }
  | .maxConnections max, c => { c with maxConnections := max }
  | .maxConnectionsPerIp max, c => { c with maxConnectionsPerIp := max }
  | .maxConnectionsPerMinute max, c => { c with maxConnectionsPerMinute := max }
  | .all config, _ => config

namespace Control

/-- The server as it is now. -/
def server : Control Server := do
  return (← get).1

/-- Changes the server. -/
def change (f : Server → Server) : Control Unit :=
  modify fun (s, sys) => (f s, sys)

/-- Makes an operation on the system. -/
def onSystem (a : SystemAction α) : Control α :=
  ExceptT.mk fun (s, sys) =>
    let (result, sys) := a.run.run sys
    (result, s, sys)

/-! ## Configuration -/

/-- Changes the server, unless it runs. -/
def configure (f : Server → Server) : Control Unit := do
  if (← server).isRunning then throw (.invalidArgument .running)
  change f

/-- Changes the configuration, unless the server runs. -/
def set (setting : Setting) : Control Unit :=
  configure fun s => { s with config := setting.apply s.config }

/-- Sets the application, unless the server runs. -/
def setHandler (handler : Application) : Control Unit :=
  configure fun s => { s with handler := some handler }

/-- Registers the callback for an occasion, unless the server runs. -/
def register (handler : Application) (occasion : Call.Occasion) : Control Unit :=
  configure fun s => { s with callbacks := s.callbacks.register handler occasion }

/-! ## Running -/

/-- Starts the server.  A request to stop that came before is forgotten as soon as there is a
listener. -/
def start : Control Unit := do
  if (← server).isRunning then throw (.invalidArgument .alreadyRunning)
  ((← server).config.validate : Control Unit)
  let (listener, endpoint) ← onSystem (onSocket (Server.openListener (← server).config))
  let application := (← server).application
  change fun s => { s with stopRequested := false }
  change fun s => { s with
    service := some
      { listener
        endpoint
        config := s.config
        application
        admission := .ofConfig s.config
        stopping := false
        sessions := []
        active := s.active } }

/-- Accepts the connection that has waited longest, and says whether there was one.  What admission
remembers of it stays, even if it could not be handed over. -/
def process (runtime : Bool) : Control Bool := do
  match (← server).service with
  | none => throw (.invalidArgument .notRunning)
  | some v =>
    if !runtime then throw (.invalidArgument .noRuntime)
    match ← onSystem (outcome v.listener.accept) with
    | .error e => if e.isWouldBlock then return false else throw (.socket e)
    | .ok (socket, remote) =>
      let (result, v) ← onSystem (v.takeUp socket remote.address)
      change fun s => { s with service := some v }
      (result : Control Unit)
      return true

/-- Stops the server, and returns once it has stopped. -/
def stop : Control Unit := do
  let s ← onSystem (← server).stop
  change fun _ => s

/-- Asks the server to stop. -/
def requestStop : Control Unit :=
  change fun s => { s with stopRequested := true }

/-! ## Operations -/

/-- The operations that a program makes. -/
inductive Operation
  | set (setting : Setting)
  | setHandler (handler : Application)
  | register (handler : Application) (occasion : Call.Occasion)
  | start
  | process (runtime : Bool)
  | stop
  | requestStop

namespace Operation

/-- Makes an operation. -/
def perform : Operation → Control Unit
  | .set setting => Control.set setting
  | .setHandler handler => Control.setHandler handler
  | .register handler occasion => Control.register handler occasion
  | .start => Control.start
  | .process runtime => do let _ ← Control.process runtime
  | .stop => Control.stop
  | .requestStop => Control.requestStop

/-- Whether an operation configures the server. -/
def configures : Operation → Bool
  | .set _ | .setHandler _ | .register _ _ => true
  | .start | .process _ | .stop | .requestStop => false

end Operation
end Control
end WebSocket
