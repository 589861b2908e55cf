import WebSocket.Proofs.Server.Stopping

/-
The supervision of sessions.  From the first connection to the stop, a server keeps a count of its
sessions and a table of admission, and whatever order the world, the sessions and the server act in,
the two tell of the sessions that there are (`Scene.accounted_of_reaches`).
-/
namespace WebSocket
namespace Scene

/-- What is true of the sessions of a server and of the accounts that it keeps of them. -/
structure Accounted (w : Scene) : Prop where
  /-- A connection that is accepted is refused or given one session, unless the system does not take
  what is sent to tell of the refusal. -/
  accepts {runtime : Bool} {next : Server} {after : System}
    (h : (w.server.process runtime).run.run w.system = (.ok (true, next), after)) :
    ∃ v socket id remote between v', w.server.service = some v ∧
      v.listener.accept.run.run w.system = (.ok (socket, remote), between) ∧
      socket.id = some id ∧ next = { w.server with service := some v' } ∧
      ((v.config.rejectWithStatus = true →
          ((socket.sendAll Http.Status.tooManyRequests.refusalBytes).run.run between).1 = .ok ()) →
        v.TakesUp id remote.address between v' after)
  /-- When no connection is taken up there is none, or one that was admitted is lost because it cannot
  be handed over.  Then no session begins, and only what admission remembers has changed. -/
  loses {runtime : Bool} {result : Except Error Bool} {next : Server} {after : System}
    (h : (w.server.accept runtime).run w.system = ((result, next), after))
    (hresult : result ≠ .ok true) :
    (next = w.server ∧ w.server.GetsNone runtime w.system) ∨
      ∃ e, result = .error e ∧ w.server.Loses e w.system next after
  /-- No session begins but by accepting a connection. -/
  begins {next : Scene} (h : w.Step next) :
    next.sockets.Subperm w.sockets ∨ ∃ runtime server system,
      (w.server.process runtime).run.run w.system = (.ok (true, server), system) ∧
        next = { w with server, system }
  /-- While every session waits, the server counts those that are not over, and so does admission,
  within the limit. -/
  rests {v : Service} (hv : w.server.service = some v) (h : w.AtRest v) :
    w.server.connections = w.sessions.countP (!·.isFinished) ∧
      (v.config.security = true →
        v.admission.table.globalCurrent = w.server.connections ∧
          w.server.connections ≤ v.config.maxConnections)
  /-- A server that has stopped counts no session, and admission has none left of this run. -/
  leaves {v : Service} {next : Scene} (hv : w.server.service = some v) (h : w.Step next)
    (hnext : next.server.service = none) :
    next.server.stateName = "Stopped" ∧ next.server.connections = 0 ∧
      v.admission.table.globalCurrent = 0 ∧ v.admission.table.entries = []
  /-- Stopping a server makes it stop, with all its sessions over. -/
  stops {v : Service} {next : Server} {after : System} (hv : w.server.service = some v)
    (ha : w.answering = []) (h : w.server.stop.run w.system = (next, after)) :
    next.stateName = "Stopped" ∧ next.connections = 0 ∧
      ∃ last v', (w.server.windDown v).run w.system = (last, after) ∧
        last.service = some v' ∧ v'.sessions = [] ∧
          v'.admission.table.globalCurrent = 0 ∧ v'.admission.table.entries = []

variable {w next : Scene} {v : Service}

/-! ## Beginnings -/

theorem sockets_subperm {s t : Session} {rest : List Session}
    (hs : w.sessions.Perm (s :: rest)) (ht : next.sessions.Perm (t :: rest))
    (hsocket : t.socket = s.socket) : next.sockets.Subperm w.sockets := by
  have hafter := ht.map Session.socket
  rw [List.map_cons, hsocket, ← List.map_cons] at hafter
  exact (hafter.trans (hs.map Session.socket).symm).subperm

theorem sockets_of_stopped (hbefore : w.server.service = none) (hafter : next.server.sessions = [])
    (hsame : next.answering = w.answering) : next.sockets = w.sockets := by
  rw [sockets, sockets, sessions_of_stopped hbefore, sessions, hafter, hsame, List.nil_append]

theorem sockets_of_configure {change : Server → Server} {server : Server}
    (h : w.server.configure change = .ok server)
    (hservice : (change w.server).service = w.server.service) :
    sockets { w with server } = w.sockets := by
  obtain ⟨hnone, rfl⟩ := Server.configure_eq_ok h
  refine sockets_of_stopped hnone ?_ rfl
  rw [Server.sessions, hservice, hnone]

/-- Only accepting a connection makes a session. -/
theorem Step.begins (h : w.Step next) :
    next.sockets.Subperm w.sockets ∨ ∃ runtime server system,
      (w.server.process runtime).run.run w.system = (.ok (true, server), system) ∧
        next = { w with server, system } := by
  have hsame {x : Scene} (hsockets : x.sockets = w.sockets) : x.sockets.Subperm w.sockets :=
    hsockets ▸ .refl _
  cases h with
  | outside | hear => exact .inl (hsame rfl)
  | setConfig hs | setHandler hs | register hs =>
    exact .inl (hsame (sockets_of_configure hs rfl))
  | start hs =>
    obtain ⟨hnone, listener, endpoint, rfl⟩ := Server.start_eq_ok hs
    exact .inl (hsame (sockets_of_stopped hnone rfl rfl))
  | @accept runtime result server system ha =>
    obtain ⟨rfl, -, -⟩ | ⟨v, socket, id, remote, between, answer, v', hv, -, hid, htake, rfl, rfl⟩ :=
      Server.accept_cases ha
    · exact .inl (hsame rfl)
    · cases answer with
      | ok => exact .inr ⟨runtime, _, system, Server.process_eq_ok_iff.mpr ha, rfl⟩
      | error e =>
        -- the connection is lost, so that the sessions are those that were there before
        cases Service.loses_of_run_takeUp hid htake
        refine .inl (hsame ?_)
        rw [sockets, sockets, sessions_of_service hv]
        rfl
  | @receive v before after s hv hs failures data ended =>
    have hsocket : (Session.take { s with connection := v.refresh w.system.now s.connection }
      failures data ended).socket = s.socket := rfl
    exact .inl (sockets_subperm (sessions_perm hv hs) (sessions_perm rfl rfl) hsocket)
  | @step v before after s c hv hs =>
    have hsocket : ({ s with connection := c } : Session).socket = s.socket := rfl
    exact .inl (sockets_subperm (sessions_perm hv hs) (sessions_perm rfl rfl) hsocket)
  | @identify v before after s head codec c outcome hv hs =>
    have hsocket : ({ s with connection := c } : Session).socket = s.socket := rfl
    exact .inl (sockets_subperm (sessions_perm hv hs) List.perm_middle hsocket)
  | @conclude v before after s outcome c hv ha =>
    have hsocket : ({ s with connection := c } : Session).socket = s.socket := rfl
    refine .inl (sockets_subperm (sessions_perm_answering hv ha) ?_ hsocket)
    rw [sessions_of_service (w := Scene.mk _ _ _) rfl, List.append_assoc]
    exact List.perm_middle
  | @retire v before after s hv hs =>
    have hbefore := (sessions_perm hv hs).map Session.socket
    rw [List.map_cons] at hbefore
    exact .inl ((List.sublist_cons_self ..).subperm.trans hbefore.symm.subperm)
  | order hv =>
    refine .inl (hsame ?_)
    rw [sockets, sockets, sessions_of_service hv]
    rfl
  | leave hv hstopping hover =>
    have hsockets : w.sockets = [] := by rw [sockets, hover, List.map_nil]
    refine .inl (hsame ?_)
    rw [hsockets, sockets, sessions, answering_of_sessions_nil hover]
    rfl

/-! ## The end -/

/-- A server that runs stops running only when all its sessions have ended. -/
theorem Step.sessions_eq_nil (h : w.Step next) (hv : w.server.service = some v)
    (hnext : next.server.service = none) :
    w.sessions = [] ∧ next.server.active = w.server.connections := by
  have hruns {o : Option Service} (ho : o = some v) : o ≠ none := ho ▸ Option.some_ne_none v
  cases h with
  | leave _ _ hover => exact ⟨hover, rfl⟩
  | outside | hear => exact absurd hnext (hruns hv)
  | setConfig hs => exact absurd (Server.configure_eq_ok hs).1 (hruns hv)
  | setHandler hs => exact absurd (Server.configure_eq_ok hs).1 (hruns hv)
  | register hs => exact absurd (Server.configure_eq_ok hs).1 (hruns hv)
  | start hs => exact absurd (Server.start_eq_ok hs).1 (hruns hv)
  | accept ha =>
    obtain ⟨rfl, -, -⟩ | ⟨_, _, _, _, _, _, _, -, -, -, -, -, rfl⟩ := Server.accept_cases ha
    · exact absurd hnext (hruns hv)
    · cases hnext
  | receive | step | identify | conclude | retire | order => cases hnext

/-! ## Every run -/

theorem Sound.accounted (h : w.Sound) : w.Accounted where
  accepts hp := by
    obtain ⟨-, hnot, -⟩ | ⟨v, socket, id, remote, between, answer, v', hv, haccept, hid, htake,
      hanswer, rfl⟩ := Server.accept_cases (Server.process_eq_ok_iff.mp hp)
    · exact absurd rfl hnot
    · cases answer with
      | error e => cases hanswer
      | ok =>
        exact ⟨v, socket, id, remote, between, v', hv, haccept, hid, rfl,
          fun hsend => Service.takesUp_of_run_takeUp hid hsend htake⟩
  loses ha hresult := Server.loses_of_accept ha hresult
  begins hs := hs.begins
  rests {v} hv hrest := by
    have hsessions : w.sessions = v.sessions := by
      rw [sessions_of_service hv, hrest.answered, List.map_nil, List.append_nil]
    have hbalanced := h.running v hv
    rw [hsessions] at hbalanced
    -- at rest no session is over, so that those that are counted are those that are not over
    have hopen : ∀ s ∈ v.sessions, s.isFinished = false := fun s hs => (hrest.waits s hs).1
    have hall : v.sessions.countP (!·.isFinished) = v.sessions.length :=
      List.countP_eq_length.mpr fun s hs => by rw [hopen s hs]; rfl
    rw [Server.connections_of_service hv, hsessions, hall]
    exact ⟨hbalanced.active, hbalanced.globalCurrent hopen⟩
  leaves {v next} hv hs hnext := by
    obtain ⟨hover, hactive⟩ := hs.sessions_eq_nil hv hnext
    have hbalanced := h.running v hv
    rw [hover] at hbalanced
    obtain ⟨hnone, htable⟩ := hbalanced.of_nil
    rw [Server.connections_of_service hv, hnone] at hactive
    rw [Server.stateName, Server.isRunning, Server.connections, hnext, htable]
    exact ⟨rfl, hactive, rfl, rfl⟩
  stops {v stopped after} hv ha hs := by
    rcases hwind : (w.server.windDown v).run w.system with ⟨last, ended⟩
    rw [Server.run_stop hv hwind] at hs
    cases hs
    obtain ⟨v', hv', -, hsessions⟩ := Server.sessions_windDown hwind
    -- winding down is one of the things that can happen, so the accounts are kept to its end
    have hsound : Sound ⟨last, w.answering, after⟩ :=
      h.reaches (reaches_windDown w.server w.answering hv hwind)
    have hbalanced := hsound.running v' hv'
    rw [sessions_of_service hv', ha, hsessions] at hbalanced
    obtain ⟨hactive, htable⟩ := hbalanced.of_nil
    have hconnections : last.connections = 0 := by
      rw [Server.connections_of_service hv', hactive]
    exact ⟨rfl, hconnections, last, v', rfl, hv', hsessions, by rw [htable]; rfl,
      by rw [htable]; rfl⟩

/-- Whatever happens to a server, its accounts are right. -/
theorem accounted_of_reaches {config : Config} {system : System}
    (h : Reaches ⟨.new config, [], system⟩ w) : w.Accounted :=
  (Sound.of_reaches_new h).accounted

/-- The scene in which a server has been started and has accepted a client, whose session has gone
on until it waits. -/
def visited? (config : Config) (client : Address) : Option Scene :=
  match (Server.new config).start.run.run .empty with
  | (.ok server, system) =>
    match server.endpoint?.map (system.network.dial client) with
    | some (.ok (_, network)) =>
      match (server.process true).run.run { system with network } with
      | (.ok (true, server), system) =>
        let (server, system) := server.settle.run system
        some ⟨server, [], system⟩
      | _ => none
    | _ => none
  | _ => none

theorem atRest_of_visited? {config : Config} {client : Address}
    (h : visited? config client = some w) (hv : w.server.service = some v) : w.AtRest v := by
  unfold visited? at h
  split at h
  · split at h
    · split at h
      · cases h
        exact atRest_of_settle rfl hv
      · cases h
    · cases h
  · cases h

theorem reaches_of_visited? {config : Config} {client : Address}
    (h : visited? config client = some w) : Reaches ⟨.new config, [], .empty⟩ w := by
  unfold visited? at h
  split at h
  · rename_i started sys hstart
    split at h
    · rename_i _ network _
      split at h
      · rename_i accepted between hprocess
        cases h
        exact .head (.start hstart) (.head (.outside { sys with network })
          (.head (.accept (Server.process_eq_ok_iff.mp hprocess)) (reaches_settle accepted [] rfl)))
      · cases h
    · cases h
  · cases h

/-- A server that has been visited once is at rest with one connection. -/
theorem accounted_of_visit :
    ∃ w v, visited? { Config.default with security := true } (.v4 ⟨127, 0, 0, 1⟩) = some w ∧
      w.server.service = some v ∧ w.AtRest v ∧ w.server.connections = 1 ∧ w.Accounted := by
  have hrun : (visited? { Config.default with security := true } (.v4 ⟨127, 0, 0, 1⟩)).any
      (fun w => w.server.service.any (·.active == 1)) = true := by
    decide +kernel
  obtain ⟨w, hw, hservice⟩ := (Option.any_eq_true _ _).mp hrun
  obtain ⟨v, hv, hactive⟩ := (Option.any_eq_true _ _).mp hservice
  refine ⟨w, v, hw, hv, atRest_of_visited? hw hv, ?_, accounted_of_reaches (reaches_of_visited? hw)⟩
  rw [Server.connections_of_service hv]
  exact beq_iff_eq.mp hactive

end Scene
end WebSocket
