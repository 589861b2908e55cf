import WebSocket.Network.Socket
import WebSocket.Server.Session

/-
The server: it listens, admits connections and serves them until it is stopped.  It is configured
while it is stopped; what exists only while it runs is its `Service`.  An operation that fails
returns no server, so that it leaves the old one as it was.  Only a connection that is lost after it
was admitted leaves its trace, in what admission remembers (`Server.accept`).

The sessions go on whenever the server settles.  While they wait for nothing but time, the clock is
moved to the next deadline.  A session that is over has ended: that a runtime keeps the remains of
finished sessions until somebody asks for them is left out, and so is all that is merely logged.
-/
namespace WebSocket

/-- What exists of a server only while it runs.  The configuration and the application are those
that it was started with. -/
structure Service where
  listener : Socket
  endpoint : Endpoint
  config : Config
  application : Application
  admission : Admission.Controller
  /-- Whether the sessions are ordered to end. -/
  stopping : Bool
  /-- The sessions that are not over, in the order of their acceptance. -/
  sessions : List Session
  /-- How many sessions have begun and have not ended. -/
  active : Nat

namespace Service

/-! ## Admission -/

/-- The service with a new session. -/
def welcome (v : Service) (socket : Nat) (peer : Address) (permit : Admission.Controller.Permit)
    (now : Nat) : Service :=
  let connection := Connection.new v.config v.application peer v.admission (some permit) now now
  { v with
    sessions := v.sessions ++
      [{ socket, connection, received := 0, room := Session.minRoom }]
    active := v.active + 1 }

/-- Sends a connection away, with an answer or without. -/
def turnAway (socket : Socket) (answer : Bool) : StateM System Unit := do
  if answer then
    let _ ← (socket.sendAll Http.Status.tooManyRequests.refusalBytes).run
  let _ ← socket.close

/-- Has the runtime wait for a socket that is served from now on. -/
def register : SystemAction Unit :=
  ExceptT.mk fun sys =>
    match sys.perform .register fun n => .ok ((), n) with
    | (.ok (), sys) => (.ok (), sys)
    | (.error code, sys) => (.error (.ofFailure (Errno.failure code)), sys)

/-- Hands a connection that has been accepted over to the runtime: calls on its socket wait no more,
and it is given up for its number. -/
def handOver (socket : Socket) : SystemAction Nat := do
  onSocket (socket.setBlocking false)
  let id ← onSocket socket.release
  register
  return id

/-- Begins a session under a permit.  If the connection cannot be handed over, its socket is closed
and the permit is given back. -/
def launch (v : Service) (socket : Socket) (peer : Address) (permit : Admission.Controller.Permit)
    (now : Nat) : StateM System (Except Error Unit × Service) := do
  match ← (handOver socket).run with
  | .ok id => return (.ok (), v.welcome id peer permit now)
  | .error e =>
    let _ ← socket.close
    return (.error e, { v with admission := v.admission.giveBack permit })

/-- Gives a connection a session, or turns it away, as admission has decided. -/
def carryOut (v : Service) (socket : Socket) (peer : Address) (now : Nat) :
    Except Error Admission.Controller.Permit × Admission.Controller →
      StateM System (Except Error Unit × Service)
  | (.ok permit, admission) => { v with admission }.launch socket peer permit now
  | (.error _, admission) => do
    turnAway socket v.config.rejectWithStatus
    return (.ok (), { v with admission })

/-- Takes up a connection that has been accepted: a session, if admission grants a permit. -/
def takeUp (v : Service) (socket : Socket) (peer : Address) :
    StateM System (Except Error Unit × Service) := do
  let now := (← get).now
  v.carryOut socket peer now (v.admission.acquire peer.text now)

/-! ## Sessions -/

/-- The connection of a session as the service has it go on. -/
def refresh (v : Service) (now : Nat) (c : Connection) : Connection :=
  { c with
    admission := v.admission
    stopping := v.stopping
    now
    admissionTime := now }

/-- Lets one session go on, and returns what the application hears of it. -/
def serve (v : Service) (s : Session) : StateM System (Service × Session × List Call) := do
  let next ← { s with connection := v.refresh (← get).now s.connection }.progress
  let news := next.connection.effects.drop s.connection.effects.length
  let calls := v.application.heard (Connection.callsOf news)
  return ({ v with admission := next.connection.admission }, next, calls)

/-- The service after a session has gone on: one that is over has ended, and any other stays. -/
def retain (v : Service) (s : Session) : Service :=
  if s.isFinished then { v with active := v.active - 1 }
  else { v with sessions := v.sessions ++ [s] }

/-- Lets sessions go on, one after the other. -/
def serveAll : List Session → Service → StateM System (Service × List Call)
  | [], v => pure (v, [])
  | s :: rest, v => do
    let (v, s, calls) ← v.serve s
    let (v, more) ← serveAll rest (v.retain s)
    return (v, calls ++ more)

/-- Lets all sessions go on. -/
def settle (v : Service) : StateM System (Service × List Call) :=
  serveAll v.sessions { v with sessions := [] }

/-- The next reading of the clock at which a session goes on by itself. -/
def nextDeadline? (v : Service) : Option Nat :=
  (v.sessions.filterMap Session.deadline?).min?

/-- A bound on the deadlines that can pass before all sessions are over. -/
def patience (v : Service) : Nat :=
  Sequence.total (fun s => s.connection.phase.rank) v.sessions + 1

end Service

/-- A server. -/
structure Server where
  config : Config
  callbacks : Callbacks
  /-- The application, if it is not to be made from the callbacks. -/
  handler : Option Application
  service : Option Service
  /-- How many sessions were active when it last stopped. -/
  active : Nat
  /-- Whether it has been asked to stop since it was last started. -/
  stopRequested : Bool
  /-- What the application has heard. -/
  heard : List Call

namespace Server

/-- A server that has not been started. -/
def new (config : Config) : Server :=
  { config
    callbacks := .empty
    handler := none
    service := none
    active := 0
    stopRequested := false
    heard := [] }

/-! ## State -/

/-- Whether the server runs. -/
def isRunning (s : Server) : Bool :=
  s.service.isSome

/-- The name of the server's state. -/
def stateName (s : Server) : String :=
  if s.isRunning then "Running" else "Stopped"

/-- The sessions that are not over. -/
def sessions (s : Server) : List Session :=
  match s.service with
  | some v => v.sessions
  | none => []

/-- How many connections there are, by the count that is kept of them. -/
def connections (s : Server) : Nat :=
  match s.service with
  | some v => v.active
  | none => s.active

/-- Where the server listens. -/
def endpoint? (s : Server) : Option Endpoint :=
  s.service.map Service.endpoint

/-- The server in words. -/
def text (s : Server) : String :=
  "Server \x7b config: " ++ s.config.text ++ ", state: " ++ s.stateName ++ ", connections: " ++
    toString s.connections ++ ", .. \x7d"

/-! ## Configuration -/

/-- Changes the server, unless it runs. -/
def configure (s : Server) (change : Server → Server) : Except Error Server :=
  if s.isRunning then .error (.invalidArgument .running) else .ok (change s)

/-- Changes the configuration, unless the server runs. -/
def setConfig (s : Server) (change : Config → Config) : Except Error Server :=
  s.configure fun s => { s with config := change s.config }

/-- Sets the application, unless the server runs. -/
def setHandler (s : Server) (handler : Application) : Except Error Server :=
  s.configure fun s => { s with handler := some handler }

/-- Registers the callback for an occasion, unless the server runs. -/
def register (s : Server) (handler : Application) (occasion : Call.Occasion) :
    Except Error Server :=
  s.configure fun s => { s with callbacks := s.callbacks.register handler occasion }

/-- The application that a run of the server calls. -/
def application (s : Server) : Application :=
  s.handler.getD s.callbacks.application

/-! ## Starting -/

/-- Makes a socket listen where a configuration says. -/
def listenAs (c : Config) (listener : Socket) : SocketAction Endpoint := do
  listener.setReuse true
  listener.bind c.bindAddress c.port
  listener.listen c.backlog
  listener.setBlocking false
  listener.localEndpoint

/-- Opens the listener that a configuration asks for. -/
def openListener (c : Config) : SocketAction (Socket × Endpoint) := do
  let listener ← Socket.create (if Address.isV6Text c.bindAddress then .ipv6 else .ipv4)
  match ← outcome (listenAs c listener) with
  | .ok endpoint => return (listener, endpoint)
  | .error e =>
    let _ ← listener.close
    throw e

/-- Starts the server. -/
def start (s : Server) : SystemAction Server := do
  if s.isRunning then throw (.invalidArgument .alreadyRunning)
  (s.config.validate : SystemAction Unit)
  let (listener, endpoint) ← onSocket (openListener s.config)
  return { s with
    stopRequested := false
    service := some
      { listener
        endpoint
        config := s.config
        application := s.application
        admission := .ofConfig s.config
        stopping := false
        sessions := []
        active := s.active } }

/-! ## Running -/

/-- Accepts the connection that has waited longest, and says whether there was one.  It takes a
runtime to serve it.  The server is returned in any case, since admission remembers a connection
that could not be handed over. -/
def accept (s : Server) (runtime : Bool) : StateM System (Except Error Bool × Server) := do
  match s.service with
  | none => return (.error (.invalidArgument .notRunning), s)
  | some v =>
    if !runtime then return (.error (.invalidArgument .noRuntime), s)
    match ← v.listener.accept.run with
    | .error e => return (if e.isWouldBlock then .ok false else .error (.socket e), s)
    | .ok (socket, remote) =>
      let (result, v) ← v.takeUp socket remote.address
      return (result.map fun _ => true, { s with service := some v })

/-- Accepts a connection on behalf of one who has no use for the server if that fails. -/
def process (s : Server) (runtime : Bool) : SystemAction (Bool × Server) := do
  let (result, next) ← (s.accept runtime : SystemAction (Except Error Bool × Server))
  return (← result, next)

/-- Lets the sessions go on. -/
def settle (s : Server) : StateM System Server := do
  match s.service with
  | none => return s
  | some v =>
    let (v, calls) ← v.settle
    return { s with service := some v, heard := s.heard ++ calls }

/-- Lets the sessions go on until `goal` finds what it looks for, from one deadline to the next, up
to `fuel` of them. -/
def awaitFor (goal : Server → System → Option α) :
    (fuel : Nat) → Server → StateM System (Option α × Server)
  | 0, s => return (goal s (← get), s)
  | fuel + 1, s => do
    let s ← s.settle
    match goal s (← get), s.service.bind Service.nextDeadline? with
    | none, some deadline =>
      modify (·.waitUntil deadline)
      awaitFor goal fuel s
    | found, _ => return (found, s)

/-- Lets the sessions go on until `goal` finds what it looks for or none of them can. -/
def await (s : Server) (goal : Server → System → Option α) : StateM System (Option α × Server) :=
  awaitFor goal (((s.service.map Service.patience).getD 0) + 1) s

/-! ## Stopping -/

/-- Whether no session is left. -/
def allOver (s : Server) (_ : System) : Option Unit :=
  if s.sessions.isEmpty then some () else none

/-- Stops listening, orders the sessions to end, and waits until they have. -/
def windDown (s : Server) (v : Service) : StateM System Server := do
  let _ ← v.listener.close
  let (_, s) ← { s with service := some { v with stopping := true } }.await allOver
  return s

/-- Stops the server. -/
def stop (s : Server) : StateM System Server := do
  match s.service with
  | none => return s
  | some v =>
    let s ← s.windDown v
    return { s with service := none, active := s.connections }

/-! ## Runs -/

/-- Accepts connections until none waits or accepting fails, up to `fuel`. -/
def drainQueue : (fuel : Nat) → Server → StateM System Server
  | 0, s => pure s
  | fuel + 1, s => do
    match ← s.accept true with
    | (.ok true, s) => drainQueue fuel s
    | (_, s) => return s

/-- Accepts all connections that wait.  There are no more of them than sockets. -/
def poll (s : Server) : StateM System Server := do
  let s ← drainQueue ((← get).network.sockets.length + 1) s
  s.settle

/-- The time between two looks at the queue, in milliseconds. -/
def pollInterval : Nat := 10

/-- Polls until a reading of the clock has come, up to `fuel` times. -/
def pollUntil (deadline : Nat) : (fuel : Nat) → Server → StateM System Server
  | 0, s => pure s
  | fuel + 1, s => do
    let s ← s.poll
    let next := (← get).now + pollInterval
    modify (·.waitUntil (min next deadline))
    if next < deadline then pollUntil deadline fuel s else return s

/-- Runs the server, which is started if need be, until it is asked to stop after so many
milliseconds. -/
def runFor (s : Server) (duration : Nat) : StateM System (Except Error Unit × Server) := do
  match ← (if s.isRunning then pure s else s.start : SystemAction Server).run with
  | .error e => return (.error e, { s with stopRequested := true })
  | .ok s =>
    let s ← pollUntil ((← get).now + duration) (duration + 1) s
    let s ← { s with stopRequested := true }.stop
    return (.ok (), s)

end Server
end WebSocket
