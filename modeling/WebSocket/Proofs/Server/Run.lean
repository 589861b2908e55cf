import Mathlib.Logic.Relation
import WebSocket.Connection.Tenancy
import WebSocket.Server

/-
The runs of a server.  Its sessions go on at the same time as the server accepts connections, and
all of them share one controller of admission.  So they take their steps in any order, and one that
has identified the client of a request may wait for others before it answers (`Scene.Step`).  What
the rest of the world does in between, and what of it a session gets to see, is left open: that of a
connection comes as any bytes and failures, writes fail or do not, the application answers as it
likes, and the system changes at will.
-/
namespace WebSocket

/-- A server, the sessions that have identified a client and have not answered yet, and the system
that they are part of. -/
structure Scene where
  server : Server
  answering : List (Session × Except Error Upgrade.Request)
  system : System

namespace Scene

/-- The sessions that have begun and have not ended. -/
def sessions (w : Scene) : List Session :=
  w.server.sessions ++ w.answering.map Prod.fst

/-- The sockets of these sessions. -/
def sockets (w : Scene) : List Nat :=
  w.sessions.map Session.socket

/-- The scene with another state of the service. -/
def serving (w : Scene) (v : Service) : Scene :=
  { w with server := { w.server with service := some v } }

/-- What can happen in a scene. -/
inductive Step (w : Scene) : Scene → Prop
  /-- The rest of the world acts. -/
  | outside (system : System) : Step w { w with system }
  /-- The application hears of something. -/
  | hear (calls : List Call) :
    Step w { w with server := { w.server with heard := w.server.heard ++ calls } }
  | setConfig {change : Config → Config} {server : Server}
    (h : w.server.setConfig change = .ok server) : Step w { w with server }
  | setHandler {handler : Application} {server : Server}
    (h : w.server.setHandler handler = .ok server) : Step w { w with server }
  | register {handler : Application} {occasion : Call.Occasion} {server : Server}
    (h : w.server.register handler occasion = .ok server) : Step w { w with server }
  | start {server : Server} {system : System}
    (h : w.server.start.run.run w.system = (.ok server, system)) : Step w { w with server, system }
  /-- The server accepts a connection, or none, or fails to. -/
  | accept {runtime : Bool} {result : Except Error Bool} {server : Server} {system : System}
    (h : (w.server.accept runtime).run w.system = ((result, server), system)) :
    Step w { w with server, system }
  /-- A session is taken up again, and something may have come to its socket. -/
  | receive {v : Service} {before after : List Session} {s : Session}
    (hv : w.server.service = some v) (hs : v.sessions = before ++ s :: after)
    (failures : List Arrival) (data : Bytes) (ended : Bool) :
    Step w (w.serving { v with
      sessions := before ++
        Session.take { s with connection := v.refresh w.system.now s.connection } failures data
          ended :: after })
  /-- A session takes a step, with its write taken by the system or not.  How the application
  answers may depend on what it has been told of other connections, so any application will do. -/
  | step {v : Service} {before after : List Session} {s : Session} {next : Connection}
    (hv : w.server.service = some v) (hs : v.sessions = before ++ s :: after)
    (writeFailure : Option IoFailure) (application : Application)
    (h : Connection.step? { v.refresh w.system.now s.connection with writeFailure, application } =
      some next) :
    Step w (w.serving { v with
      admission := next.admission
      sessions := before ++ { s with connection := next } :: after })
  /-- A session takes the first half of the step that takes up the head of a request. -/
  | identify {v : Service} {before after : List Session} {s : Session} {head : Bytes}
    {codec : Codec} {next : Connection} {outcome : Except Error Upgrade.Request}
    (hv : w.server.service = some v) (hs : v.sessions = before ++ s :: after)
    (hf : (v.refresh w.system.now s.connection).found? = some (head, codec))
    (h : Connection.identified { v.refresh w.system.now s.connection with codec } head =
      (next, outcome)) :
    Step w { w.serving { v with
        admission := next.admission
        sessions := before ++ after } with
      answering := ({ s with connection := next }, outcome) :: w.answering }
  /-- A session takes the second half of that step. -/
  | conclude {v : Service} {before after : List (Session × Except Error Upgrade.Request)}
    {s : Session} {outcome : Except Error Upgrade.Request} {next : Connection}
    (hv : w.server.service = some v) (hs : w.answering = before ++ (s, outcome) :: after)
    (writeFailure : Option IoFailure)
    (h : Connection.conclude { v.refresh w.system.now s.connection with writeFailure } outcome =
      next) :
    Step w { w.serving { v with
        admission := next.admission
        sessions := v.sessions ++ [{ s with connection := next }] } with
      answering := before ++ after }
  /-- A session that is over ends: its socket is closed, and it is no longer counted. -/
  | retire {v : Service} {before after : List Session} {s : Session}
    (hv : w.server.service = some v) (hs : v.sessions = before ++ s :: after)
    (h : s.isFinished = true) :
    Step w { w.serving { v with sessions := before ++ after, active := v.active - 1 } with
      system := { w.system with network := w.system.network.close s.socket } }
  /-- The server stops listening and orders the sessions to end. -/
  | order {v : Service} (hv : w.server.service = some v) :
    Step w { w.serving { v with stopping := true } with
      system := (v.listener.close.run w.system).2 }
  /-- The server has stopped, once all sessions have ended. -/
  | leave {v : Service} (hv : w.server.service = some v) (hstopping : v.stopping = true)
    (hover : w.sessions = []) :
    Step w { w with server := { w.server with service := none, active := w.server.connections } }

/-- What can be reached from a scene. -/
def Reaches : Scene → Scene → Prop :=
  Relation.ReflTransGen Step

/-- Whether every session waits.  Those that are over have ended. -/
structure AtRest (w : Scene) (v : Service) : Prop where
  answered : w.answering = []
  waits : ∀ s ∈ v.sessions, s.isFinished = false ∧
    (v.refresh w.system.now s.connection).step? = none

end Scene
end WebSocket
