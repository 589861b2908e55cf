import WebSocket.Proofs.Server.Control
import WebSocket.Proofs.Server.Supervision

/-
A server is configured while it is stopped.  While it runs nobody configures it, so that it runs
with its own configuration and application (`Scene.Configured`), and its controller of admission is
one of that configuration.  The operations of a program do to a server what could happen to it by
itself (`Scene.reaches_of_perform`).  Those that fail leave it as it was, but for what admission
remembers of a connection that was lost.
-/
namespace WebSocket

namespace Admission
namespace Holding

/-- A controller that keeps account of permits applies what the configuration asks for. -/
theorem Kept.applies {config : Config} {h : Holding} (hk : h.Kept config) :
    h.controller.enabled = config.security ∧
      h.controller.limits = (Controller.ofConfig config).limits := by
  cases hs : config.security with
  | true =>
    have hc := (kept_iff_of_secure hs).mp hk
    exact ⟨hc.enabled, hc.limits_eq⟩
  | false =>
    rw [(kept_iff_of_open hs).mp hk]
    exact ⟨hs, rfl⟩

end Holding
end Admission

theorem Service.same_of_takeUp {v v' : Service} {socket : Socket} {id : Nat} {peer : Address}
    {sys after : System} {answer : Except Error Unit} (hid : socket.id = some id)
    (h : (v.takeUp socket peer).run sys = ((answer, v'), after)) :
    v'.config = v.config ∧ v'.application = v.application := by
  obtain ⟨_, _, -, -, rfl⟩ | ⟨_, _, -, ⟨-, rfl, -⟩ | ⟨_, _, -, rfl, -⟩⟩ := takeUp_cases hid h
  all_goals exact ⟨rfl, rfl⟩

namespace Scene

open Control (Operation)

/-- A server that runs does so with its own configuration and application. -/
def Configured (w : Scene) : Prop :=
  ∀ v, w.server.service = some v →
    v.config = w.server.config ∧ v.application = w.server.application

variable {w next : Scene} {v v' : Service}

theorem configured_of_stopped (h : w.server.service = none) : w.Configured := by
  intro v hv
  rw [h] at hv
  cases hv

theorem Configured.serving (h : w.Configured) (hv : w.server.service = some v)
    (hconfig : v'.config = v.config) (happlies : v'.application = v.application) :
    (w.serving v').Configured := by
  intro u hu
  cases hu
  obtain ⟨hown, happlication⟩ := h v hv
  exact ⟨hconfig.trans hown, happlies.trans happlication⟩

/-- Whatever happens, a server runs as it is configured. -/
theorem Configured.step (h : w.Configured) (hs : w.Step next) : next.Configured := by
  cases hs with
  | outside | hear => exact h
  | setConfig hs | setHandler hs | register hs =>
    obtain ⟨hnone, rfl⟩ := Server.configure_eq_ok hs
    exact configured_of_stopped hnone
  | start hs =>
    obtain ⟨-, listener, endpoint, rfl⟩ := Server.start_eq_ok hs
    intro v hv
    cases hv
    exact ⟨rfl, rfl⟩
  | accept ha =>
    obtain ⟨rfl, -, -⟩ | ⟨v, socket, id, remote, between, answer, v', hv, -, hid, htake, -, rfl⟩ :=
      Server.accept_cases ha
    · exact h
    · obtain ⟨hconfig, happlies⟩ := Service.same_of_takeUp hid htake
      exact h.serving hv hconfig happlies
  | receive hv | step hv | identify hv | conclude hv | retire hv | order hv =>
    exact h.serving hv rfl rfl
  | leave => exact configured_of_stopped rfl

theorem Configured.reaches (h : w.Configured) (hr : w.Reaches next) : next.Configured := by
  induction hr with
  | refl => exact h
  | tail _ hs ih => exact ih.step hs

/-! ## In the hands of a program -/

/-- What can happen to a server that a program holds: what happens by itself, and the operations of
the program, whatever comes of them.  A session that is between the halves of its step when the
server is to stop takes the second one before the server has stopped. -/
inductive Act (w : Scene) : Scene → Prop
  | happen {next : Scene} (h : w.Step next) : Act w next
  | perform {op : Operation} {answer : Except Error Unit} {server : Server} {system : System}
    (hwhole : op = .stop → w.answering = [])
    (h : op.perform.run.run (w.server, w.system) = (answer, server, system)) :
    Act w { w with server, system }

/-- What can be reached from a scene by acts. -/
def ActsTo : Scene → Scene → Prop :=
  Relation.ReflTransGen Act

/-- The scene after some operations of the program alone. -/
def afterAll (w : Scene) (ops : List Operation) : Scene :=
  ops.foldl (fun w op =>
    let (_, server, system) := op.perform.run.run (w.server, w.system)
    { w with server, system }) w

theorem answering_afterAll (ops : List Operation) : (w.afterAll ops).answering = w.answering := by
  induction ops generalizing w with
  | nil => rfl
  | cons op ops ih => exact ih

theorem actsTo_afterAll (ha : w.answering = []) (ops : List Operation) :
    w.ActsTo (w.afterAll ops) := by
  induction ops generalizing w with
  | nil => exact .refl
  | cons op ops ih => exact .head (.perform (fun _ => ha) rfl) (ih ha)

/-- A server that stops does what could happen to it. -/
theorem reaches_stop {server : Server} {system : System} (ha : w.answering = [])
    (h : w.server.stop.run w.system = (server, system)) :
    w.Reaches { w with server, system } := by
  cases hv : w.server.service with
  | none =>
    have hsame : w.server.stop.run w.system = (w.server, w.system) := by
      rw [Server.stop, hv]
      rfl
    rw [hsame] at h
    cases h
    exact .refl
  | some v =>
    rcases hwind : (w.server.windDown v).run w.system with ⟨last, after⟩
    obtain ⟨v', hv', hstopping, hsessions⟩ := Server.sessions_windDown hwind
    rw [Server.run_stop hv hwind] at h
    cases h
    have hreach : w.Reaches ⟨last, w.answering, system⟩ :=
      reaches_windDown w.server w.answering hv hwind
    refine hreach.tail (.leave hv' hstopping ?_)
    rw [sessions_of_service (w := Scene.mk _ _ _) hv', hsessions, ha]
    rfl

/-- What an operation that returns the server could do by itself, it could do on behalf of a program,
and if it fails, it has acted on the system alone. -/
theorem reaches_of_keep {a : SystemAction Server} {answer : Except Error Unit} {server : Server}
    {system : System} (h : (Control.keep w.server a).run w.system = ((answer, server), system))
    (hok : a.run.run w.system = (.ok server, system) → w.Reaches { w with server, system }) :
    w.Reaches { w with server, system } := by
  obtain ⟨_, -, rfl, -⟩ | ⟨-, ha⟩ := Control.keep_cases h
  · exact .single (.outside system)
  · exact hok ha

/-- What an operation makes of a server could happen to it, unless it is a request to stop. -/
theorem reaches_of_perform {op : Operation} {answer : Except Error Unit} {server : Server}
    {system : System} (hwhole : op = .stop → w.answering = []) (hop : op ≠ .requestStop)
    (h : op.perform.run.run (w.server, w.system) = (answer, server, system)) :
    w.Reaches { w with server, system } := by
  have hresult := Operation.run_result_of_perform h
  cases op with
  | set setting =>
    refine reaches_of_keep hresult fun hs => ?_
    obtain ⟨hset, rfl⟩ := Prod.mk.inj ((Server.run_check ..).symm.trans hs)
    exact .single (.setConfig hset)
  | setHandler handler =>
    refine reaches_of_keep hresult fun hs => ?_
    obtain ⟨hset, rfl⟩ := Prod.mk.inj ((Server.run_check ..).symm.trans hs)
    exact .single (.setHandler hset)
  | register handler occasion =>
    refine reaches_of_keep hresult fun hs => ?_
    obtain ⟨hset, rfl⟩ := Prod.mk.inj ((Server.run_check ..).symm.trans hs)
    exact .single (.register hset)
  | start => exact reaches_of_keep hresult fun hs => .single (.start hs)
  | process runtime =>
    rcases ha : (w.server.accept runtime).run w.system with ⟨⟨taken, next⟩, after⟩
    rw [Operation.result, StateT.run_map, ha] at hresult
    cases hresult
    exact .single (.accept ha)
  | stop =>
    refine reaches_of_keep hresult fun hs => reaches_stop (hwhole rfl) ?_
    cases hs
    rfl
  | requestStop => exact absurd rfl hop

/-- The accounts of a server, which runs as it is configured. -/
structure Orderly (w : Scene) : Prop where
  sound : w.Sound
  configured : w.Configured

theorem orderly_new (config : Config) (system : System) : Orderly ⟨.new config, [], system⟩ where
  sound := sound_new config system
  configured := configured_of_stopped rfl

theorem Orderly.reaches (h : w.Orderly) (hr : w.Reaches next) : next.Orderly where
  sound := h.sound.reaches hr
  configured := h.configured.reaches hr

theorem Orderly.act (h : w.Orderly) (ha : w.Act next) : next.Orderly := by
  cases ha with
  | happen hs => exact h.reaches (.single hs)
  | @perform op answer server system hwhole hp =>
    by_cases hop : op = .requestStop
    · subst hop
      cases hp
      exact ⟨⟨h.sound.stopped, h.sound.running, h.sound.answering⟩, h.configured⟩
    · exact h.reaches (reaches_of_perform hwhole hop hp)

theorem Orderly.acts (h : w.Orderly) (ha : w.ActsTo next) : next.Orderly := by
  induction ha with
  | refl => exact h
  | tail _ hact ih => exact ih.act hact

/-- What is true of the configuration of a server that a program holds. -/
structure Frozen (w : Scene) : Prop where
  /-- A server that runs does so with its own configuration and application, and admission applies
  what that configuration asks for. -/
  runs {v : Service} (hv : w.server.service = some v) :
    v.config = w.server.config ∧ v.application = w.server.application ∧
      v.admission.enabled = w.server.config.security ∧
      v.admission.limits.maxConnections = w.server.config.maxConnections ∧
      v.admission.limits.maxPerIp = w.server.config.maxConnectionsPerIp ∧
      v.admission.limits.maxPerMinute = w.server.config.maxConnectionsPerMinute
  /-- A server that runs is not configured, and nothing changes. -/
  refuses {op : Operation} (hop : op.configures = true) (hr : w.server.isRunning = true) :
    op.perform.run.run (w.server, w.system) =
      (.error (.invalidArgument .running), w.server, w.system)
  /-- An operation that fails leaves the server as it was.  Only admission may remember a connection
  that was accepted and lost. -/
  fails {op : Operation} {e : Error} {server : Server} {system : System}
    (h : op.perform.run.run (w.server, w.system) = (.error e, server, system)) :
    server = w.server ∨
      (∃ runtime, op = .process runtime) ∧ w.server.Loses e w.system server system
  /-- A server that fails to start, at whichever step, is stopped, with the configuration, the
  application and the request to stop that it had.  One that runs does not start again. -/
  starts {e : Error} {server : Server} {system : System}
    (h : Operation.start.perform.run.run (w.server, w.system) = (.error e, server, system)) :
    (server.stateName = "Stopped" ∧ w.server.FailsToStart e w.system system ∨
      w.server.stateName = "Running" ∧ e = .invalidArgument .alreadyRunning ∧ system = w.system) ∧
      server.config = w.server.config ∧ server.callbacks = w.server.callbacks ∧
      server.handler = w.server.handler ∧ server.stopRequested = w.server.stopRequested

theorem Orderly.frozen (h : w.Orderly) : w.Frozen where
  runs {v} hv := by
    obtain ⟨hconfig, happlies⟩ := h.configured v hv
    obtain ⟨henabled, hlimits⟩ := (h.sound.running v hv).kept.applies
    rw [hconfig] at henabled hlimits
    exact ⟨hconfig, happlies, henabled, congrArg Admission.Limits.maxConnections hlimits,
      congrArg Admission.Limits.maxPerIp hlimits, congrArg Admission.Limits.maxPerMinute hlimits⟩
  refuses hop hr := Operation.perform_of_running hop hr
  fails hp := Operation.eq_or_loses_of_error hp
  starts hp := by
    obtain ⟨_, he, rfl, hstart⟩ | ⟨hok, -⟩ :=
      Control.keep_cases (Operation.run_result_of_perform hp)
    · cases he
      refine ⟨?_, rfl, rfl, rfl, rfl⟩
      rw [Server.stateName]
      obtain ⟨hr, he, hsame⟩ | ⟨hr, hfails⟩ := Server.start_eq_error hstart
      · exact .inr ⟨if_pos hr, he, hsame⟩
      · refine .inl ⟨?_, hfails⟩
        rw [hr]
        rfl
    · cases hok

/-- Whatever a program does with a server, its configuration is frozen while it runs, and what fails
changes nothing. -/
theorem frozen_of_acts {config : Config} {system : System}
    (h : ActsTo ⟨.new config, [], system⟩ w) : w.Frozen :=
  ((orderly_new config system).acts h).frozen

/-- A connection that comes while a fault lies in wait. -/
def visit (w : Scene) (client : Address) (e : Endpoint) (f : Fault) : Scene :=
  { w with system := (w.system.act fun n => n.dial client e).2.expect f }

theorem actsTo_visit (w : Scene) (client : Address) (e : Endpoint) (f : Fault) :
    w.ActsTo (w.visit client e f) :=
  .single (.happen (.outside _))

/-- A server that has been asked to stop fails to start twice, as its listener cannot listen, and then
has to wait.  It starts when it is told to once more, keeps its port until it is stopped, and loses a
connection that the runtime does not take. -/
theorem frozen_of_restart :
    let w := afterAll ⟨.new .default, [],
        (System.empty.expect ⟨.listen, .fails 98⟩).expect ⟨.setBlocking, .fails 22⟩⟩
      [.requestStop, .start, .start]
    let running := w.afterAll [.start, .set (.port 9000)]
    let visited := running.visit (.loopback .ipv4) ⟨.loopback .ipv4, 8080⟩ ⟨.register, .fails 24⟩
    let restarted := visited.afterAll [.process true, .stop, .set (.port 9000), .start]
    (w.server.stateName = "Stopped" ∧ w.server.stopRequested = true ∧ w.Frozen) ∧
      (running.server.stateName = "Running" ∧ running.server.stopRequested = false ∧
        running.server.config.port = 8080 ∧ running.Frozen) ∧
      (((Operation.process true).perform.run.run (visited.server, visited.system)).1.mapError
        Error.kind = .error .ioFailure ∧ visited.Frozen) ∧
      restarted.server.stateName = "Running" ∧ restarted.server.config.port = 9000 ∧
        restarted.Frozen := by
  intro w running visited restarted
  have hw : ActsTo ⟨.new .default, [],
      (System.empty.expect ⟨.listen, .fails 98⟩).expect ⟨.setBlocking, .fails 22⟩⟩ w :=
    actsTo_afterAll rfl _
  have ha : w.answering = [] := answering_afterAll _
  have hrunning : w.ActsTo running := actsTo_afterAll ha _
  have hvisited : running.ActsTo visited := actsTo_visit ..
  have ha' : visited.answering = [] := (answering_afterAll _).trans ha
  have hrestarted : visited.ActsTo restarted := actsTo_afterAll ha' _
  have hall := (hw.trans hrunning).trans hvisited
  refine ⟨⟨?_, ?_, frozen_of_acts hw⟩, ⟨?_, ?_, ?_, frozen_of_acts (hw.trans hrunning)⟩,
    ⟨?_, frozen_of_acts hall⟩, ?_, ?_, frozen_of_acts (hall.trans hrestarted)⟩
  all_goals decide +kernel

end Scene
end WebSocket
