import WebSocket.Admission.Controller
import WebSocket.Connection.Handler
import WebSocket.Connection.State
import WebSocket.Http.Forwarded
import WebSocket.Message
import WebSocket.Transport.Codec

/-
A connection that the server has accepted, from the first byte of the upgrade request to the end.
It is a machine that takes one step at a time (`step?`) and waits when it has none to take: for
bytes, for a deadline or for the order to stop.  What happens outside is an `Event`; after each one
the machine runs until it waits again (`settle`).  What the machine does is kept as a log of
`Effect`s.

A connection waits in one of three places, and its clock starts with the first.  Awaiting the head
of the request, it may be refused with an HTTP response.  Awaiting a frame, it answers messages
until one of the two sides closes.  Draining, it has sent a close frame and only looks for the
peer's.
-/
namespace WebSocket

/-- What a connection does. -/
inductive Effect
  | enter (state : ConnectionState)
  | write (data : Bytes)
  | writeFailed (data : Bytes)
  | flushFailed
  | call (call : Call)
  | transfer (source target : String) (decision : Admission.Decision)
  | shut
  | release (ip : String)
deriving DecidableEq

/-- What a connection is waiting for.  A deadline is a reading of the clock. -/
inductive Phase
  | accepted
  | awaitingHead (deadline : Option Nat)
  | awaitingFrame (deadline : Option Nat)
  | draining (deadline : Nat) (verdict : Option Error)
  | finished
deriving DecidableEq

namespace Phase

/-- How many kinds of wait lie ahead. -/
def rank : Phase → Nat
  | .accepted => 4
  | .awaitingHead _ => 3
  | .awaitingFrame _ => 2
  | .draining _ _ => 1
  | .finished => 0

/-- The deadline of a wait. -/
def deadline? : Phase → Option Nat
  | .accepted => none
  | .awaitingHead deadline => deadline
  | .awaitingFrame deadline => deadline
  | .draining deadline _ => some deadline
  | .finished => none

end Phase

/-- A connection. -/
structure Connection where
  config : Config
  application : Application
  peer : Address
  /-- The client that the application is told of. -/
  client : String
  permit : Option Admission.Controller.Permit
  admission : Admission.Controller
  state : ConnectionState
  phase : Phase
  /-- Whether the application has been told of the connection. -/
  connected : Bool
  codec : Codec
  /-- How writes fail, if they do. -/
  writeFailure : Option IoFailure
  /-- How flushes fail, if they do. -/
  flushFailure : Option IoFailure
  /-- Whether the server has been ordered to stop. -/
  stopping : Bool
  /-- The clock of the deadlines. -/
  now : Nat
  /-- The clock by which admission counts. -/
  admissionTime : Nat
  /-- What the connection has done, latest first. -/
  log : List Effect

namespace Connection

/-- A connection that has just been accepted, with the permit it was accepted under. -/
def new (config : Config) (application : Application) (peer : Address)
    (admission : Admission.Controller) (permit : Option Admission.Controller.Permit)
    (now admissionTime : Nat) : Connection :=
  { config
    application
    peer
    client := match permit with
      | some permit => permit.ip
      | none => peer.text
    permit
    admission
    state := .awaitingRequest
    phase := .accepted
    connected := false
    codec := .new config.limits
    writeFailure := none
    flushFailure := none
    stopping := false
    now
    admissionTime
    log := [] }

/-- What the connection has done, in its order. -/
def effects (c : Connection) : List Effect :=
  c.log.reverse

/-- The calls that effects made. -/
def callsOf (effects : List Effect) : List Call :=
  effects.filterMap fun
    | .call call => some call
    | _ => none

/-! ## Single effects -/

/-- The connection after an effect. -/
def emit (c : Connection) (e : Effect) : Connection :=
  { c with log := e :: c.log }

/-- Moves to a state. -/
def enter (c : Connection) (s : ConnectionState) : Connection :=
  { c with state := s }.emit (.enter s)

/-- Calls the application. -/
def notify (c : Connection) (call : Call) : Connection :=
  c.emit (.call call)

/-- Flushes what has been written. -/
def flush (c : Connection) : Connection × Option Error :=
  match c.flushFailure with
  | none => (c, none)
  | some failure => (c.emit .flushFailed, some (.ofFailure failure))

/-- Writes bytes, all of them or none, and flushes them.  That a write fails halfway is left out: it
counts as one of no bytes. -/
def write (c : Connection) (data : Bytes) : Connection × Option Error :=
  match c.writeFailure with
  | none => (c.emit (.write data)).flush
  | some failure => (c.emit (.writeFailed data), some (.ofFailure failure))

/-- Bytes are written and flushed, or not written, or written and not flushed. -/
theorem write_cases (c : Connection) (data : Bytes) :
    (c.writeFailure = none ∧ c.flushFailure = none ∧ c.write data = (c.emit (.write data), none)) ∨
      (∃ failure, c.writeFailure = some failure ∧
        c.write data = (c.emit (.writeFailed data), some (.ofFailure failure))) ∨
      ∃ failure, c.writeFailure = none ∧ c.flushFailure = some failure ∧
        c.write data = ((c.emit (.write data)).emit .flushFailed, some (.ofFailure failure)) := by
  unfold write
  cases hw : c.writeFailure with
  | some failure => exact .inr (.inl ⟨failure, rfl, rfl⟩)
  | none =>
    cases hf : c.flushFailure with
    | none =>
      have hflush : (c.emit (.write data)).flush = (c.emit (.write data), none) := by
        simp only [flush, emit, hf]
      exact .inl ⟨rfl, rfl, hflush⟩
    | some failure =>
      have hflush : (c.emit (.write data)).flush =
          ((c.emit (.write data)).emit .flushFailed, some (.ofFailure failure)) := by
        simp only [flush, emit, hf]
      exact .inr (.inr ⟨failure, rfl, rfl, hflush⟩)

/-- Sends a frame. -/
def send (c : Connection) (frame : Frame) : Connection × Option Error :=
  c.write frame.encode

/-- Sends a frame and does not mind if that fails. -/
def sendAnyway (c : Connection) (frame : Frame) : Connection :=
  (c.send frame).1

/-- Gives the permit back. -/
def releasePermit (c : Connection) : Connection :=
  match c.permit with
  | some permit =>
    { c with
      permit := none
      admission := c.admission.giveBack permit }.emit (.release permit.ip)
  | none => c

/-! ## Ends -/

/-- Reports an error, unless it is that the peer has gone. -/
def report (c : Connection) (verdict : Option Error) : Connection :=
  match verdict with
  | some e => if e.kind = .peerClosed then c else c.notify (.error c.client e)
  | none => c

/-- Tells the application that a connection it knows of is over. -/
def farewell (c : Connection) : Connection :=
  if c.connected then c.notify (.disconnect c.client) else c

/-- Ends the connection: the error is reported, the permit given back, and the application told,
in this order. -/
def finish (c : Connection) (verdict : Option Error) : Connection :=
  let c := (c.report verdict).enter .closed
  let c := (c.emit .shut).releasePermit.farewell
  { c with phase := .finished }

/-- The HTTP status that refuses a handshake on account of an error, if it is to be answered. -/
def refusal? (c : Connection) (e : Error) : Option Http.Status :=
  match e with
  | .admissionRefused _ => if c.config.rejectWithStatus then e.status? else none
  | _ => e.status?

/-- Refuses the handshake. -/
def reject (c : Connection) (e : Error) : Connection :=
  match c.refusal? e with
  | some status => (c.write status.refusalBytes).1.finish (some e)
  | none => c.finish (some e)

/-- Sends a close frame and waits for the peer's, after which the connection ends with `verdict`.
If the frame cannot be sent the connection ends at once, with what `onFailure` makes of the
error. -/
def closeWith (c : Connection) (code : CloseCode) (reason : String) (verdict : Option Error)
    (onFailure : Error → Option Error) : Connection :=
  if c.state.canSend then
    match (c.enter .closing).send (Message.close (some ⟨code, reason⟩)).toFrame with
    | (c, some e) => c.finish (onFailure e)
    | (c, none) => { c with phase := .draining (c.now + c.config.timeouts.close) verdict }
  else c.finish verdict

/-- Closes on account of an error of the peer, which is the verdict whatever becomes of the close
frame. -/
def fail (c : Connection) (e : Error) : Connection :=
  match e.closeCode? with
  | some code => c.closeWith code "" (some e) fun _ => some e
  | none => c.finish (some e)

/-- Closes because no frame came in time. -/
def expire (c : Connection) (e : Error) : Connection :=
  c.closeWith .goingAway "Idle timeout" (some e) some

/-- Closes because the server stops. -/
def goAway (c : Connection) : Connection :=
  c.closeWith .goingAway "Server shutting down" none some

/-! ## Handshake -/

/-- Waits for the head of the request. -/
def awaitHead (c : Connection) : Connection :=
  { c with phase := .awaitingHead (c.config.timeouts.handshake.map (c.now + ·)) }

/-- Waits for the next frame. -/
def awaitFrame (c : Connection) : Connection :=
  { c with phase := .awaitingFrame (c.config.timeouts.idle.map (c.now + ·)) }

/-- Passes the connection on to the client that the request speaks for. -/
def reidentify (c : Connection) (request : Upgrade.Request) : Connection × Option Error :=
  let client := Http.identify c.peer request.headers
  if client = c.client then (c, none)
  else
    match c.permit with
    | none => ({ c with client }, none)
    | some permit =>
      let (decision, permit, admission) :=
        c.admission.transferPermit permit client c.admissionTime
      let source := c.client
      let c := { c with permit := some permit, admission }.emit (.transfer source client decision)
      match decision with
      | .admitted => ({ c with client }, none)
      | refused => (c, some (.admissionRefused refused))

/-- A connection is the client's already, or has no permit, or its permit is passed on or not. -/
theorem reidentify_cases (c : Connection) (request : Upgrade.Request) :
    let client := Http.identify c.peer request.headers
    (client = c.client ∧ c.reidentify request = (c, none)) ∨
      (c.permit = none ∧ c.reidentify request = ({ c with client }, none)) ∨
      (∃ permit passed admission, c.permit = some permit ∧
        c.admission.transferPermit permit client c.admissionTime = (.admitted, passed, admission) ∧
          c.reidentify request = ({ c with
            client
            permit := some passed
            admission
            log := .transfer c.client client .admitted :: c.log }, none)) ∨
      ∃ permit kept admission decision, c.permit = some permit ∧ decision ≠ .admitted ∧
        c.admission.transferPermit permit client c.admissionTime = (decision, kept, admission) ∧
          c.reidentify request = ({ c with
            permit := some kept
            admission
            log := .transfer c.client client decision :: c.log },
            some (.admissionRefused decision)) := by
  intro client
  by_cases hsame : client = c.client
  · exact .inl ⟨hsame, if_pos hsame⟩
  · have hre : c.reidentify request = if client = c.client then (c, none) else _ := rfl
    rw [hre, if_neg hsame]
    cases hp : c.permit with
    | none => exact .inr (.inl ⟨rfl, rfl⟩)
    | some permit =>
      rcases ht : c.admission.transferPermit permit (Http.identify c.peer request.headers)
        c.admissionTime with ⟨decision, passed, admission⟩
      simp only [ht]
      by_cases hd : decision = .admitted
      · subst hd
        exact .inr (.inr (.inl ⟨permit, passed, admission, rfl, ht, rfl⟩))
      · refine .inr (.inr (.inr ⟨permit, passed, admission, decision, rfl, hd, ht, ?_⟩))
        cases decision with
        | admitted => exact absurd rfl hd
        | _ => rfl

/-- Accepts a request. -/
def accept (c : Connection) (request : Upgrade.Request) : Connection :=
  match c.write (Bytes.ofText request.acceptResponse) with
  | (c, some e) => c.finish (some e)
  | (c, none) =>
    let c := { c.enter .open with connected := true }
    (c.notify (.connect c.client)).awaitFrame

/-- Judges the head of a request. -/
def handshake (c : Connection) (head : Bytes) : Connection :=
  let c := c.enter .handshaking
  match c.config.policy.judge head with
  | .error e => c.reject e
  | .ok request =>
    match c.reidentify request with
    | (c, some e) => c.reject e
    | (c, none) => c.accept request

/-! ## Messages -/

/-- Sends a reply, if there is one, and waits for the next frame. -/
def reply (c : Connection) : Option Frame → Connection
  | none => c.awaitFrame
  | some frame =>
    match c.send frame with
    | (c, some e) => c.finish (some e)
    | (c, none) => c.awaitFrame

/-- How the application answers the last call. -/
def handler (c : Connection) : Handler :=
  c.application.after (callsOf c.effects)

/-- Answers a message. -/
def answer (c : Connection) : Message → Connection
  | .text content =>
    let told := c.notify (.message c.client content)
    told.reply ((told.handler.onMessage c.client content).map Frame.text)
  | .binary data =>
    let told := c.notify (.binary c.client data)
    told.reply ((told.handler.onBinary c.client data).map Frame.binary)
  | .ping data => c.reply (some (Frame.pong data))
  | .pong _ => c.awaitFrame
  | .close content =>
    (((c.enter .closing).sendAnyway (Message.close content).toFrame).enter .closed).finish none

/-- Answers a close frame that is out of order.  The peer is closing already, so nothing is
waited for. -/
def answerBadClose (c : Connection) (e : Error) : Connection :=
  let code := e.closeCode?.getD .protocolError
  (((c.enter .closing).sendAnyway (Frame.close (some code) "")).enter .closed).finish (some e)

/-- Takes up a frame. -/
def dispatch (c : Connection) (frame : Frame) : Connection :=
  match Message.ofFrame frame with
  | .ok message => c.answer message
  | .error e => if frame.opcode = .close then c.answerBadClose e else c.fail e

/-- Ends the draining. -/
def drained (c : Connection) (verdict : Option Error) : Connection :=
  (c.enter .closed).finish verdict

/-! ## Steps -/

/-- Whether a deadline has been reached. -/
def isDue (c : Connection) : Option Nat → Bool
  | some deadline => deadline ≤ c.now
  | none => false

/-- The error of a head that came too late. -/
def headTimeout (c : Connection) : Error :=
  .timeout (.handshake (c.config.timeouts.handshake.getD 0))

/-- The error of a frame that came too late. -/
def idleTimeout (c : Connection) : Error :=
  .timeout (.idle (c.config.timeouts.idle.getD 0))

/-- A step of a connection that awaits the head of the request. -/
def stepHead? (c : Connection) (deadline : Option Nat) : Option Connection :=
  if c.stopping then some (c.finish none)
  else
    match c.codec.stepHead with
    | .done (.ok head) codec => some ({ c with codec }.handshake head)
    | .done (.error e) codec => some ({ c with codec }.reject e)
    | .more codec => some { c with codec }
    | .waiting => if c.isDue deadline then some (c.reject c.headTimeout) else none

/-- A step of a connection that awaits a frame. -/
def stepFrame? (c : Connection) (deadline : Option Nat) : Option Connection :=
  if c.stopping then some c.goAway
  else
    match c.codec.stepFrame with
    | .done (.ok frame) codec => some ({ c with codec }.dispatch frame)
    | .done (.error e) codec =>
      let c := { c with codec }
      some (if e.isTimeout then c.expire e else c.fail e)
    | .more codec => some { c with codec }
    | .waiting => if c.isDue deadline then some (c.expire c.idleTimeout) else none

/-- A step of a connection that drains: every frame but a close frame is passed over. -/
def stepDrain? (c : Connection) (deadline : Nat) (verdict : Option Error) : Option Connection :=
  match c.codec.stepFrame with
  | .done (.ok frame) codec =>
    let c := { c with codec }
    some (if frame.opcode = .close then c.drained verdict else c)
  | .done (.error _) codec => some ({ c with codec }.drained verdict)
  | .more codec => some { c with codec }
  | .waiting => if c.isDue (some deadline) then some (c.drained verdict) else none

/-- The step that a connection takes, if it does not wait. -/
def step? (c : Connection) : Option Connection :=
  match c.phase with
  | .accepted => some c.awaitHead
  | .awaitingHead deadline => c.stepHead? deadline
  | .awaitingFrame deadline => c.stepFrame? deadline
  | .draining deadline verdict => c.stepDrain? deadline verdict
  | .finished => none

/-- Takes up to `fuel` steps. -/
def run : (fuel : Nat) → Connection → Connection
  | 0, c => c
  | fuel + 1, c =>
    match c.step? with
    | some c => run fuel c
    | none => c

/-- A bound on the steps that a connection can take before it waits. -/
def work (c : Connection) : Nat :=
  c.codec.load + c.phase.rank

/-- Takes steps until the connection waits. -/
def settle (c : Connection) : Connection :=
  run c.work c

/-! ## Events -/

/-- What happens to a connection from outside. -/
inductive Event
  | deliver (chunks : List Bytes)
  | endOfInput
  | failRead (failure : IoFailure)
  | failWrites (failure : IoFailure)
  | advance (ms : Nat)
  | stop
  | nothing
deriving DecidableEq

/-- The connection right after an event, before it has taken a step. -/
def apply (c : Connection) : Event → Connection
  | .deliver chunks =>
    { c with codec := { c.codec with inbox := c.codec.inbox.deliver chunks } }
  | .endOfInput => { c with codec := { c.codec with inbox := c.codec.inbox.finish } }
  | .failRead failure =>
    { c with codec := { c.codec with inbox := c.codec.inbox.push (.failure failure) } }
  | .failWrites failure => { c with writeFailure := some failure }
  | .advance ms => { c with now := c.now + ms }
  | .stop => { c with stopping := true }
  | .nothing => c

/-- The connection after an event, when it waits again. -/
def handle (c : Connection) (e : Event) : Connection :=
  (c.apply e).settle

/-- Whether the connection is over. -/
def isFinished (c : Connection) : Bool :=
  c.phase == .finished

/-! ## The log -/

/-- The bytes that effects wrote. -/
def bytesOf (effects : List Effect) : Bytes :=
  effects.flatMap fun
    | .write data => data
    | _ => []

/-- What effects wrote, one write after the other. -/
def writesOf (effects : List Effect) : List Bytes :=
  effects.filterMap fun
    | .write data => some data
    | _ => none

/-- The bytes that the next step writes, if no write fails. -/
def nextWrite (c : Connection) : Bytes :=
  match { c with writeFailure := none, flushFailure := none }.step? with
  | some next => bytesOf (next.effects.drop c.effects.length)
  | none => []

end Connection
end WebSocket
