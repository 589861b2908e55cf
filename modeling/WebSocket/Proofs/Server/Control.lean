import WebSocket.Proofs.Server.Acceptance
import WebSocket.Server.Control

/-
Operations in place and operations that return the server.  Until an operation changes the server it
only acts on the system, and once it does it cannot fail any more, so that what fails leaves the
server as it was.  Accepting a connection is the one that can: the connection may be lost after it
was admitted.  In every case both kinds of operation leave the same server
(`Control.Operation.run_perform`).
-/
namespace WebSocket
namespace Control

variable {α β : Type} {s next : Server} {sys sys' : System}

/-- What a program holds after an operation that returns the server: the old one, if it fails. -/
def keep (s : Server) (a : SystemAction Server) : StateM System (Except Error Unit × Server) := do
  match ← a.run with
  | .ok next => return (.ok (), next)
  | .error e => return (.error e, s)

/-- Whether an operation does to a server in place what another one returns. -/
def Follows (s : Server) (c : Control α) (a : StateM System (Except Error α × Server)) : Prop :=
  ∀ sys, c.run.run (s, sys) = ((a.run sys).1.1, (a.run sys).1.2, (a.run sys).2)

theorem follows_throw (e : Error) : Follows s (throw e) (keep s (throw e)) :=
  fun _ => rfl

theorem follows_change (f : Server → Server) : Follows s (change f) (keep s (pure (f s))) :=
  fun _ => rfl

theorem Follows.server {k : Server → Control α} {a : StateM System (Except Error α × Server)}
    (h : Follows s (k s) a) : Follows s (Control.server >>= k) a :=
  h

theorem Follows.check {r : Except Error β} {k : β → Control Unit} {k' : β → SystemAction Server}
    (h : ∀ x, Follows s (k x) (keep s (k' x))) :
    Follows s ((r : Control β) >>= k) (keep s ((r : SystemAction β) >>= k')) := by
  cases r with
  | error e => exact follows_throw e
  | ok x => exact h x

theorem run_onSystem {a : SystemAction α} {result : Except Error α}
    (h : a.run.run sys = (result, sys')) :
    (onSystem a).run.run (s, sys) = (result, s, sys') := by
  show ((a.run.run sys).1, s, (a.run.run sys).2) = _
  rw [h]

theorem run_lift {ε : Type} {a : StateM System α} {x : α} (h : a.run sys = (x, sys')) :
    (a : ExceptT ε (StateM System) α).run.run sys = (.ok x, sys') := by
  show (Except.ok (a.run sys).1, (a.run sys).2) = _
  rw [h]

theorem run_outcome {ε ε' : Type} {a : ExceptT ε (StateM System) α} {result : Except ε α}
    (h : a.run.run sys = (result, sys')) :
    (outcome a : ExceptT ε' (StateM System) (Except ε α)).run.run sys = (.ok result, sys') :=
  run_lift h

theorem run_keep_of_ok {a : SystemAction Server} (h : a.run.run sys = (.ok next, sys')) :
    (keep s a).run sys = ((.ok (), next), sys') := by
  rw [keep, StateT.run_bind, h]
  rfl

theorem run_keep_of_error {a : SystemAction Server} {e : Error}
    (h : a.run.run sys = (.error e, sys')) : (keep s a).run sys = ((.error e, s), sys') := by
  rw [keep, StateT.run_bind, h]
  rfl

/-- What an operation does to the system alone leaves the server as it was. -/
theorem Follows.onSystem {a : SystemAction α} {k : α → Control Unit} {k' : α → SystemAction Server}
    (h : ∀ x, Follows s (k x) (keep s (k' x))) :
    Follows s (Control.onSystem a >>= k) (keep s (a >>= k')) := by
  intro sys
  rcases ha : a.run.run sys with ⟨e | x, sys'⟩
  · rw [run_keep_of_error (run_bind_of_error ha), run_bind_of_error (run_onSystem ha)]
  · have hkeep : (keep s (a >>= k')).run sys = (keep s (k' x)).run sys' := by
      rw [keep, keep, StateT.run_bind, StateT.run_bind, run_bind_of_ok ha]
    rw [run_bind_of_ok (run_onSystem ha), h, hkeep]

/-- An operation that returns the server fails and leaves it as it was, or returns another. -/
theorem keep_cases {a : SystemAction Server} {answer : Except Error Unit}
    (h : (keep s a).run sys = ((answer, next), sys')) :
    (∃ e, answer = .error e ∧ next = s ∧ a.run.run sys = (.error e, sys')) ∨
      (answer = .ok () ∧ a.run.run sys = (.ok next, sys')) := by
  rcases ha : a.run.run sys with ⟨e | kept, after⟩
  · rw [run_keep_of_error ha] at h
    cases h
    exact .inl ⟨e, rfl, rfl, rfl⟩
  · rw [run_keep_of_ok ha] at h
    cases h
    exact .inr ⟨rfl, rfl⟩

/-! ## The operations -/

theorem follows_configure (f : Server → Server) :
    Follows s (configure f) (keep s (s.configure f : SystemAction Server)) := by
  show Follows s (if s.isRunning then throw (.invalidArgument .running) else change f) _
  unfold Server.configure
  split
  · exact follows_throw _
  · exact follows_change f

theorem follows_start : Follows s start (keep s s.start) := by
  unfold start Server.start
  refine .server ?_
  by_cases hr : s.isRunning = true
  · simp only [hr, if_true]
    exact follows_throw _
  · simp only [hr, Bool.false_eq_true, if_false]
    refine .server (.check fun _ => .server (.onSystem fun opened => .server ?_))
    -- nothing is left that can fail when the server is changed
    exact fun _ => rfl

/-- What admission remembers of a connection that is lost is in the server already when that
fails. -/
theorem follows_process (runtime : Bool) : Follows s (process runtime) (s.accept runtime) := by
  unfold process
  refine .server ?_
  cases hv : s.service with
  | none =>
    simp only [Server.accept, hv]
    exact fun _ => rfl
  | some v =>
    cases runtime with
    | false =>
      simp only [Server.accept, hv]
      exact fun _ => rfl
    | true =>
      intro sys
      simp only [Bool.not_true, Bool.false_eq_true, if_false]
      rcases ha : v.listener.accept.run.run sys with ⟨e | ⟨socket, remote⟩, between⟩
      · rw [Server.run_accept_of_error hv ha, run_bind_of_ok (run_onSystem (run_outcome ha))]
        by_cases hw : e.isWouldBlock = true
        · simp only [hw, if_true]
          rfl
        · simp only [hw, Bool.false_eq_true, if_false]
          rfl
      · rcases htake : (v.takeUp socket remote.address).run between with ⟨⟨answer, v'⟩, after⟩
        rw [Server.run_accept_of_ok hv ha htake, run_bind_of_ok (run_onSystem (run_outcome ha)),
          run_bind_of_ok (run_onSystem (run_lift htake))]
        cases answer <;> rfl

theorem follows_stop : Follows s stop (keep s s.stop) :=
  fun _ => rfl

namespace Operation

/-- The operation as one that returns the server. -/
def result (s : Server) : Operation → StateM System (Except Error Unit × Server)
  | .set setting => keep s (s.setConfig setting.apply : SystemAction Server)
  | .setHandler handler => keep s (s.setHandler handler : SystemAction Server)
  | .register handler occasion => keep s (s.register handler occasion : SystemAction Server)
  | .start => keep s s.start
  | .process runtime => (fun (answer, next) => (answer.map fun _ => (), next)) <$> s.accept runtime
  | .stop => keep s s.stop
  | .requestStop => return (.ok (), { s with stopRequested := true })

/-- Operations in place leave the server that the others return. -/
theorem follows_perform (op : Operation) : Follows s op.perform (op.result s) := by
  cases op with
  | set setting => exact follows_configure _
  | setHandler handler => exact follows_configure _
  | register handler occasion => exact follows_configure _
  | start => exact follows_start
  | process runtime =>
    intro sys
    rcases ha : (s.accept runtime).run sys with ⟨⟨taken, next⟩, after⟩
    have hprocess := follows_process (s := s) runtime sys
    rw [ha] at hprocess
    rw [perform, result, StateT.run_map, ha]
    cases taken with
    | error e => exact run_bind_of_error hprocess
    | ok => exact run_bind_of_ok hprocess
  | stop => exact follows_stop
  | requestStop => exact fun _ => rfl

theorem run_result_of_perform {op : Operation} {answer : Except Error Unit}
    (h : op.perform.run.run (s, sys) = (answer, next, sys')) :
    (op.result s).run sys = ((answer, next), sys') := by
  rw [op.follows_perform sys] at h
  cases h
  rfl

/-- What fails leaves the server as it was, or loses a connection. -/
theorem eq_or_loses_of_error {op : Operation} {e : Error}
    (h : op.perform.run.run (s, sys) = (.error e, next, sys')) :
    next = s ∨ (∃ runtime, op = .process runtime) ∧ s.Loses e sys next sys' := by
  have hresult := run_result_of_perform h
  have hkept {a : SystemAction Server} (ha : (keep s a).run sys = ((.error e, next), sys')) :
      next = s := by
    obtain ⟨_, -, hsame, -⟩ | ⟨hok, -⟩ := keep_cases ha
    · exact hsame
    · cases hok
  cases op with
  | process runtime =>
    rcases ha : (s.accept runtime).run sys with ⟨⟨taken, kept⟩, after⟩
    rw [result, StateT.run_map, ha] at hresult
    cases taken with
    | ok => cases hresult
    | error cause =>
      cases hresult
      obtain ⟨hsame, -⟩ | ⟨_, hlost, hloses⟩ := Server.loses_of_accept ha (by simp)
      · exact .inl hsame
      · cases hlost
        exact .inr ⟨⟨runtime, rfl⟩, hloses⟩
  | set | setHandler | register | start | stop => exact .inl (hkept hresult)
  | requestStop => cases hresult

/-- A server that runs is not configured. -/
theorem perform_of_running {op : Operation} (hop : op.configures = true)
    (hr : s.isRunning = true) :
    op.perform.run.run (s, sys) = (.error (.invalidArgument .running), s, sys) := by
  have hrefused (f : Server → Server) :
      (configure f).run.run (s, sys) = (.error (.invalidArgument .running), s, sys) := by
    rw [follows_configure f sys, Server.configure, if_pos hr]
    rfl
  cases op with
  | set | setHandler | register => exact hrefused _
  | start | process | stop | requestStop => cases hop

end Operation
end Control

namespace Server

/-- A server that is stopped fails to start because its configuration is not in order, or because
there is no listener. -/
def FailsToStart (s : Server) (e : Error) (sys after : System) : Prop :=
  (s.config.validate = .error e ∧ after = sys) ∨
    s.config.validate = .ok () ∧ ∃ cause, e = .socket cause ∧
      (openListener s.config).run.run sys = (.error cause, after)

theorem run_check {ε σ α : Type} (r : Except ε α) (s : σ) :
    (r : ExceptT ε (StateM σ) α).run.run s = (r, s) := by
  cases r <;> rfl

theorem run_onSocket_eq_error {α : Type} {a : SocketAction α} {e : Error} {sys after : System}
    (h : (onSocket a).run.run sys = (.error e, after)) :
    ∃ cause, e = .socket cause ∧ a.run.run sys = (.error cause, after) := by
  have hrun : (onSocket a).run.run sys = ((a.run.run sys).1.mapError .socket, (a.run.run sys).2) :=
    rfl
  rw [hrun] at h
  rcases ha : a.run.run sys with ⟨cause | x, next⟩
  · rw [ha] at h
    cases h
    exact ⟨cause, rfl, rfl⟩
  · rw [ha] at h
    cases h

/-- A server that does not start runs already, or fails to. -/
theorem start_eq_error {s : Server} {e : Error} {sys after : System}
    (h : s.start.run.run sys = (.error e, after)) :
    (s.isRunning = true ∧ e = .invalidArgument .alreadyRunning ∧ after = sys) ∨
      (s.isRunning = false ∧ s.FailsToStart e sys after) := by
  unfold start at h
  cases hr : s.isRunning with
  | true =>
    simp only [hr] at h
    cases h
    exact .inl ⟨rfl, rfl, rfl⟩
  | false =>
    simp only [hr, Bool.false_eq_true, if_false] at h
    refine .inr ⟨rfl, ?_⟩
    obtain hinvalid | ⟨_, between, hvalid, h⟩ := run_bind_eq_error h
    · obtain ⟨hcheck, hsame⟩ := Prod.mk.inj ((run_check ..).symm.trans hinvalid)
      exact .inl ⟨hcheck, hsame.symm⟩
    · obtain ⟨hcheck, rfl⟩ := Prod.mk.inj ((run_check ..).symm.trans hvalid)
      obtain hsocket | ⟨opened, _, -, h⟩ := run_bind_eq_error h
      · obtain ⟨cause, he, hcause⟩ := run_onSocket_eq_error hsocket
        exact .inr ⟨hcheck, cause, he, hcause⟩
      · cases h

end Server
end WebSocket
