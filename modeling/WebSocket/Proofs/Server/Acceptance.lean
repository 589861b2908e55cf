import WebSocket.Proofs.Network.Sending
import WebSocket.Server

/-
What becomes of a connection that the server accepts.  Either admission grants a permit, and there
is one session more, or it does not, and the connection is closed, after a response if refusals are
to be told (`Service.takesUp_of_run_takeUp`).  One that cannot be handed over after it was admitted
is closed too, and its permit is given back (`Service.loses_of_run_takeUp`).
-/
namespace WebSocket

theorem run_get_then {σ α : Type} (k : σ → StateM σ α) (s : σ) :
    (get >>= k).run s = (k s).run s :=
  rfl

/-- A call that changes nothing in the network fails or succeeds, and at most a fault is spent. -/
theorem System.perform_still {α : Type} (sys : System) (call : SystemCall) (x : α) :
    ∃ faults, sys.perform call (fun n => .ok (x, n)) = (.ok x, { sys with faults }) ∨
      ∃ code, sys.perform call (fun n => .ok (x, n)) = (.error code, { sys with faults }) := by
  unfold perform
  split
  · rename_i code faults _
    exact ⟨faults, .inr ⟨code, rfl⟩⟩
  · rename_i faults _ _
    exact ⟨faults, .inl rfl⟩

namespace Socket

variable {socket : Socket} {sys next : System}

theorem run_setBlocking {id : Nat} (hid : socket.id = some id) (blocking : Bool) (sys : System) :
    ∃ faults, (socket.setBlocking blocking).run.run sys = (.ok (), { sys with faults }) ∨
      ∃ cause, (socket.setBlocking blocking).run.run sys = (.error cause, { sys with faults }) := by
  have hrun : (socket.setBlocking blocking).run.run sys =
      (attempt .invalidArgument (·.perform .setBlocking fun n => .ok (only n))).run.run sys := by
    rw [setBlocking, opened, hid]
    rfl
  rw [hrun]
  unfold attempt only
  obtain ⟨faults, hok | ⟨code, hfails⟩⟩ := sys.perform_still .setBlocking ()
  · exact ⟨faults, .inl (by simp [StateT.run, hok])⟩
  · exact ⟨faults, .inr ⟨_, by simp [StateT.run, hfails]; rfl⟩⟩

theorem exists_id_of_accept {listener : Socket} {remote : Endpoint}
    (h : listener.accept.run.run sys = (.ok (socket, remote), next)) :
    ∃ id, socket.id = some id := by
  unfold accept opened at h
  cases hid : listener.id with
  | none =>
    simp only [hid] at h
    cases h
  | some own =>
    simp only [hid, pure_bind, ExceptT.run_bind, StateT.run_bind] at h
    rcases ha : (attempt .acceptFailed
      (·.perform .accept fun n => n.accept own)).run.run sys with ⟨e | ⟨peer, found⟩, after⟩
    · rw [ha] at h
      cases h
    · rw [ha] at h
      cases h
      exact ⟨peer, rfl⟩

end Socket

/-! ## One connection -/

namespace Service

variable {v : Service} {socket : Socket} {id : Nat} {peer : Address} {sys : System}

theorem run_takeUp (v : Service) (socket : Socket) (peer : Address) (sys : System) :
    (v.takeUp socket peer).run sys =
      (v.carryOut socket peer sys.now (v.admission.acquire peer.text sys.now)).run sys := by
  unfold takeUp
  rw [run_get_then]

theorem run_takeUp_of_ok {permit : Admission.Controller.Permit} {admission : Admission.Controller}
    (h : v.admission.acquire peer.text sys.now = (.ok permit, admission)) :
    (v.takeUp socket peer).run sys =
      ({ v with admission }.launch socket peer permit sys.now).run sys := by
  rw [run_takeUp, h]
  rfl

theorem run_takeUp_of_error {e : Error} {admission : Admission.Controller}
    (h : v.admission.acquire peer.text sys.now = (.error e, admission)) :
    (v.takeUp socket peer).run sys =
      ((.ok (), { v with admission }), ((turnAway socket v.config.rejectWithStatus).run sys).2) := by
  rw [run_takeUp, h]
  rfl

theorem run_register (sys : System) :
    ∃ faults, register.run.run sys = (.ok (), { sys with faults }) ∨
      ∃ e, register.run.run sys = (.error e, { sys with faults }) := by
  unfold register
  obtain ⟨faults, hok | ⟨code, hfails⟩⟩ := sys.perform_still .register ()
  · exact ⟨faults, .inl (by simp [StateT.run, hok])⟩
  · exact ⟨faults, .inr ⟨_, by simp [StateT.run, hfails]; rfl⟩⟩

theorem run_onSocket {α : Type} {a : SocketAction α} {result : Except SocketError α}
    {after : System} (h : a.run.run sys = (result, after)) :
    (onSocket a).run.run sys = (result.mapError .socket, after) := by
  have hrun : (onSocket a).run.run sys = ((a.run.run sys).1.mapError .socket, (a.run.run sys).2) :=
    rfl
  rw [hrun, h]

/-- Handing a connection over fails at one of two calls or succeeds, and does not touch the
network. -/
theorem run_handOver (hid : socket.id = some id) (sys : System) :
    ∃ faults, (handOver socket).run.run sys = (.ok id, { sys with faults }) ∨
      ∃ e, (handOver socket).run.run sys = (.error e, { sys with faults }) := by
  unfold handOver
  obtain ⟨faults, hset | ⟨cause, hset⟩⟩ := Socket.run_setBlocking hid false sys
  · have hrelease : socket.release.run.run { sys with faults } = (.ok id, { sys with faults }) := by
      rw [Socket.release, Socket.opened, hid]
      rfl
    rw [run_bind_of_ok (run_onSocket hset), run_bind_of_ok (run_onSocket hrelease)]
    obtain ⟨left, hregister | ⟨e, hregister⟩⟩ := run_register { sys with faults }
    · exact ⟨left, .inl (run_bind_of_ok hregister)⟩
    · exact ⟨left, .inr ⟨e, run_bind_of_error hregister⟩⟩
  · exact ⟨faults, .inr ⟨_, run_bind_of_error (run_onSocket hset)⟩⟩

variable {permit : Admission.Controller.Permit} {now : Nat} {after : System}

theorem run_launch_of_ok (h : (handOver socket).run.run sys = (.ok id, after)) :
    (v.launch socket peer permit now).run sys = ((.ok (), v.welcome id peer permit now), after) := by
  unfold launch
  rw [StateT.run_bind, h]
  rfl

theorem run_launch_of_error (hid : socket.id = some id) {e : Error}
    (h : (handOver socket).run.run sys = (.error e, after)) :
    (v.launch socket peer permit now).run sys =
      ((.error e, { v with admission := v.admission.giveBack permit }),
        { after with network := after.network.close id }) := by
  unfold launch
  rw [StateT.run_bind, h]
  simp only [Socket.close, hid]
  rfl

/-- A connection is refused, or given a session, or lost. -/
theorem takeUp_cases (hid : socket.id = some id) {answer : Except Error Unit} {v' : Service}
    (h : (v.takeUp socket peer).run sys = ((answer, v'), after)) :
    (∃ e admission, v.admission.acquire peer.text sys.now = (.error e, admission) ∧
      answer = .ok () ∧ v' = { v with admission }) ∨
      ∃ permit admission, v.admission.acquire peer.text sys.now = (.ok permit, admission) ∧
        ((answer = .ok () ∧ v' = { v with admission }.welcome id peer permit sys.now ∧
            ∃ faults, after = { sys with faults }) ∨
          ∃ e failed, answer = .error e ∧ v' = { v with admission := admission.giveBack permit } ∧
            (handOver socket).run.run sys = (.error e, failed) ∧
              after = { failed with network := failed.network.close id }) := by
  rcases hacquire : v.admission.acquire peer.text sys.now with ⟨e | permit, admission⟩
  · rw [run_takeUp_of_error hacquire] at h
    cases h
    exact .inl ⟨e, admission, rfl, rfl, rfl⟩
  · rw [run_takeUp_of_ok hacquire] at h
    refine .inr ⟨permit, admission, rfl, ?_⟩
    obtain ⟨faults, hok | ⟨e, hfails⟩⟩ := run_handOver hid sys
    · rw [run_launch_of_ok hok] at h
      cases h
      exact .inl ⟨rfl, rfl, faults, rfl⟩
    · rw [run_launch_of_error hid hfails] at h
      cases h
      exact .inr ⟨e, _, rfl, rfl, hfails, rfl⟩

/-- What a service makes of a connection that has been accepted. -/
inductive TakesUp (v : Service) (id : Nat) (peer : Address) (sys : System) : Service → System → Prop
  /-- Admission refuses it: the response is sent if refusals are to be told, and the socket is
  closed. -/
  | refused {e : Error} {admission : Admission.Controller} {after : System}
    (hacquire : v.admission.acquire peer.text sys.now = (.error e, admission))
    (hsent : if v.config.rejectWithStatus then
      sys.Sends id Http.Status.tooManyRequests.refusalBytes after else after = sys) :
    TakesUp v id peer sys { v with admission } { after with network := after.network.close id }
  /-- Admission grants a permit: a session is begun with it, and nothing is sent. -/
  | given {permit : Admission.Controller.Permit} {admission : Admission.Controller} {s : Session}
    {faults : List Fault}
    (hacquire : v.admission.acquire peer.text sys.now = (.ok permit, admission))
    (hsocket : s.socket = id) (hpermit : s.connection.permit = some permit)
    (hopen : s.isFinished = false) :
    TakesUp v id peer sys
      { v with admission, sessions := v.sessions ++ [s], active := v.active + 1 }
      { sys with faults }

/-- How a service loses a connection that it has admitted: it cannot be handed over, so that its
socket is closed, and the permit is given back. -/
inductive Loses (v : Service) (id : Nat) (peer : Address) (sys : System) (e : Error) :
    Service → System → Prop
  | dropped {socket : Socket} {permit : Admission.Controller.Permit}
    {admission : Admission.Controller} {failed : System} (hid : socket.id = some id)
    (hacquire : v.admission.acquire peer.text sys.now = (.ok permit, admission))
    (hfails : (handOver socket).run.run sys = (.error e, failed)) :
    Loses v id peer sys e { v with admission := admission.giveBack permit }
      { failed with network := failed.network.close id }

theorem run_turnAway_silent (hid : socket.id = some id) (sys : System) :
    ((turnAway socket false).run sys).2 = { sys with network := sys.network.close id } := by
  simp only [turnAway, Socket.close, hid]
  rfl

theorem run_turnAway_told (hid : socket.id = some id) {after : System}
    (h : (socket.sendAll Http.Status.tooManyRequests.refusalBytes).run.run sys = (.ok (), after)) :
    ((turnAway socket true).run sys).2 = { after with network := after.network.close id } := by
  unfold turnAway
  -- the bytes of the response do not matter, and are dear to compute
  generalize Http.Status.tooManyRequests.refusalBytes = data at h ⊢
  simp only [Socket.close, hid, if_true, StateT.run_bind]
  rw [h]
  rfl

/-- A connection that is not lost is refused or given a session. -/
theorem takesUp_of_run_takeUp (hid : socket.id = some id)
    (hsend : v.config.rejectWithStatus = true →
      ((socket.sendAll Http.Status.tooManyRequests.refusalBytes).run.run sys).1 = .ok ())
    {v' : Service} (h : (v.takeUp socket peer).run sys = ((.ok (), v'), after)) :
    v.TakesUp id peer sys v' after := by
  obtain ⟨e, admission, hacquire, -, -⟩ | ⟨permit, admission, hacquire, hgiven⟩ :=
    takeUp_cases hid h
  · rw [run_takeUp_of_error hacquire] at h
    cases h
    cases htold : v.config.rejectWithStatus with
    | false =>
      rw [run_turnAway_silent hid]
      exact .refused hacquire (by rw [htold]; rfl)
    | true =>
      rcases hsent : (socket.sendAll Http.Status.tooManyRequests.refusalBytes).run.run sys with
        ⟨result, between⟩
      have hok := hsend htold
      rw [hsent] at hok
      cases hok
      rw [run_turnAway_told hid hsent]
      refine .refused hacquire ?_
      rw [htold, if_pos rfl]
      exact Socket.sends_of_run_sendAll hid hsent
  · obtain ⟨-, rfl, faults, rfl⟩ | ⟨e, failed, hlost, -⟩ := hgiven
    · exact .given hacquire rfl rfl rfl
    · cases hlost

/-- A connection that is taken up in vain was admitted and is lost. -/
theorem loses_of_run_takeUp (hid : socket.id = some id) {v' : Service} {e : Error}
    (h : (v.takeUp socket peer).run sys = ((.error e, v'), after)) :
    v.Loses id peer sys e v' after := by
  obtain ⟨_, _, -, hrefused, -⟩ | ⟨permit, admission, hacquire, hgiven⟩ := takeUp_cases hid h
  · cases hrefused
  · obtain ⟨hgiven, -⟩ | ⟨_, failed, hlost, rfl, hfails, rfl⟩ := hgiven
    · cases hgiven
    · cases hlost
      exact .dropped hid hacquire hfails

end Service

/-! ## Operations of the server -/

namespace Server

/-- Only a server that is stopped is configured. -/
theorem configure_eq_ok {s next : Server} {change : Server → Server}
    (h : s.configure change = .ok next) : s.service = none ∧ next = change s := by
  unfold configure at h
  split at h
  · cases h
  · rename_i hstopped
    cases h
    exact ⟨by simpa [isRunning] using hstopped, rfl⟩

/-- A server starts from a stop, without a session. -/
theorem start_eq_ok {s next : Server} {sys after : System}
    (h : s.start.run.run sys = (.ok next, after)) :
    s.service = none ∧ ∃ listener endpoint, next = { s with
      stopRequested := false
      service := some
        { listener
          endpoint
          config := s.config
          application := s.application
          admission := .ofConfig s.config
          stopping := false
          sessions := []
          active := s.active } } := by
  unfold start at h
  by_cases hr : s.isRunning = true
  · simp only [hr] at h
    cases h
  · have hnone : s.service = none := by simpa [isRunning] using hr
    simp only [hr, Bool.false_eq_true, if_false] at h
    obtain ⟨_, between, -, h⟩ := run_bind_eq_ok h
    obtain ⟨⟨listener, endpoint⟩, _, -, h⟩ := run_bind_eq_ok h
    cases h
    exact ⟨hnone, listener, endpoint, rfl⟩

/-- Whether a server gets no connection: it does not run, or has no runtime, or its listener has none
for it. -/
def GetsNone (s : Server) (runtime : Bool) (sys : System) : Prop :=
  ∀ v, s.service = some v → runtime = true →
    ∃ cause, (v.listener.accept.run.run sys).1 = .error cause

/-- Whether a server gets a connection and loses it. -/
def Loses (s : Server) (e : Error) (sys : System) (next : Server) (after : System) : Prop :=
  ∃ v socket id remote between v', s.service = some v ∧
    v.listener.accept.run.run sys = (.ok (socket, remote), between) ∧ socket.id = some id ∧
      v.Loses id remote.address between e v' after ∧ next = { s with service := some v' }

variable {s next : Server} {runtime taken : Bool} {sys after : System}

theorem run_accept_of_error {v : Service} {e : SocketError} (hv : s.service = some v)
    (h : v.listener.accept.run.run sys = (.error e, after)) :
    (s.accept true).run sys =
      ((if e.isWouldBlock then .ok false else .error (.socket e), s), after) := by
  simp only [accept, hv, Bool.not_true, Bool.false_eq_true, if_false]
  rw [StateT.run_bind, h]
  rfl

theorem run_accept_of_ok {v v' : Service} {socket : Socket} {remote : Endpoint} {between : System}
    {answer : Except Error Unit} (hv : s.service = some v)
    (h : v.listener.accept.run.run sys = (.ok (socket, remote), between))
    (htake : (v.takeUp socket remote.address).run between = ((answer, v'), after)) :
    (s.accept true).run sys =
      ((answer.map fun _ => true, { s with service := some v' }), after) := by
  simp only [accept, hv, Bool.not_true, Bool.false_eq_true, if_false]
  rw [StateT.run_bind, h]
  show StateT.run (v.takeUp socket remote.address >>= _) between = _
  rw [StateT.run_bind, htake]
  rfl

/-- A server gets no connection and stays as it is, or takes one up. -/
theorem accept_cases {result : Except Error Bool}
    (h : (s.accept runtime).run sys = ((result, next), after)) :
    (next = s ∧ result ≠ .ok true ∧ s.GetsNone runtime sys) ∨
      ∃ v socket id remote between answer v', s.service = some v ∧
        v.listener.accept.run.run sys = (.ok (socket, remote), between) ∧ socket.id = some id ∧
          (v.takeUp socket remote.address).run between = ((answer, v'), after) ∧
            result = answer.map (fun _ => true) ∧ next = { s with service := some v' } := by
  cases hv : s.service with
  | none =>
    simp only [accept, hv] at h
    cases h
    exact .inl ⟨rfl, by simp, fun v hrun => absurd (hv.symm.trans hrun) (by simp)⟩
  | some v =>
    cases runtime with
    | false =>
      simp only [accept, hv] at h
      cases h
      exact .inl ⟨rfl, by simp, fun _ _ hruntime => absurd hruntime (by simp)⟩
    | true =>
      rcases ha : v.listener.accept.run.run sys with ⟨e | ⟨socket, remote⟩, between⟩
      · rw [run_accept_of_error hv ha] at h
        cases h
        refine .inl ⟨rfl, ?_, fun u hu _ => ⟨e, ?_⟩⟩
        · split <;> simp
        · rw [hv] at hu
          cases hu
          rw [ha]
      · rcases htake : (v.takeUp socket remote.address).run between with ⟨⟨answer, v'⟩, taken⟩
        rw [run_accept_of_ok hv ha htake] at h
        cases h
        obtain ⟨id, hid⟩ := Socket.exists_id_of_accept ha
        exact .inr ⟨v, socket, id, remote, between, answer, v', rfl, ha, hid, htake, rfl, rfl⟩

/-- A server that takes up no connection gets none and stays as it is, or loses one. -/
theorem loses_of_accept {result : Except Error Bool}
    (h : (s.accept runtime).run sys = ((result, next), after)) (hresult : result ≠ .ok true) :
    (next = s ∧ s.GetsNone runtime sys) ∨ ∃ e, result = .error e ∧ s.Loses e sys next after := by
  obtain ⟨hsame, -, hnone⟩ | ⟨v, socket, id, remote, between, answer, v', hv, ha, hid, htake, rfl,
    rfl⟩ := accept_cases h
  · exact .inl ⟨hsame, hnone⟩
  · cases answer with
    | ok => exact absurd rfl hresult
    | error e =>
      exact .inr ⟨e, rfl, v, socket, id, remote, between, v', hv, ha, hid,
        Service.loses_of_run_takeUp hid htake, rfl⟩

/-- Processing returns the server that accepting leaves if it does not fail. -/
theorem process_eq_ok_iff : (s.process runtime).run.run sys = (.ok (taken, next), after) ↔
    (s.accept runtime).run sys = ((.ok taken, next), after) := by
  rcases ha : (s.accept runtime).run sys with ⟨⟨result, kept⟩, left⟩
  have hrun : (s.process runtime).run.run sys = (result.map (·, kept), left) := by
    have hlift : (s.process runtime).run.run sys =
        ((do return (← ((s.accept runtime).run sys).1.1, ((s.accept runtime).run sys).1.2) :
          SystemAction (Bool × Server)).run.run ((s.accept runtime).run sys).2) := rfl
    rw [hlift, ha]
    cases result <;> rfl
  rw [hrun]
  cases result with
  | error e => constructor <;> (intro h; cases h)
  | ok found => constructor <;> (intro h; cases h; rfl)

end Server
end WebSocket
