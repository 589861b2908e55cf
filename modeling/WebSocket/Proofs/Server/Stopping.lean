import Mathlib.Data.List.Count
import WebSocket.Proofs.Connection.Withdrawal
import WebSocket.Proofs.Server.Accounting
import WebSocket.Proofs.Server.Settling

/-
The end of a server.  Once its sessions are ordered to end, none of them lasts longer than the wait
for the peer's close frame, so that each deadline that passes ends one of them at least, and the
server that stops has waited for all (`Server.sessions_windDown`).
-/
namespace WebSocket

/-- Whether a session that is ordered to end may wait past a reading of the clock. -/
def Phase.mayLast (now : Nat) : Phase → Bool
  | .finished => false
  | .draining deadline _ => now < deadline
  | _ => true

theorem Phase.rank_pos_of_mayLast {p : Phase} {now : Nat} (h : p.mayLast now = true) :
    0 < p.rank := by
  cases p with
  | finished => cases h
  | _ => exact Nat.succ_pos _

namespace Connection

variable {c next : Connection}

theorem mayLast_of_step? {now : Nat} (h : c.step? = some next)
    (hp : c.phase.mayLast now = false) : next.phase.mayLast now = false := by
  cases hphase : c.phase with
  | finished => simp [step?, hphase] at h
  | draining deadline verdict =>
    simp only [step?, hphase] at h
    cases drainStep h with
    | passed => exact hp
    | more => exact hp
    | closed => rfl
    | failed => rfl
    | late => rfl
  | _ =>
    rw [hphase] at hp
    cases hp

/-- A connection that is ordered to stop and waits is over, or drains. -/
theorem drains_of_waits (hstopping : c.stopping = true) (hwaits : c.step? = none) :
    c.phase = .finished ∨ ∃ deadline verdict, c.phase = .draining deadline verdict ∧
      c.now < deadline := by
  cases hphase : c.phase with
  | finished => exact .inl rfl
  | draining deadline verdict =>
    -- its deadline has not passed, or it would not wait
    have hends := not_drainEnds_of_step? hphase hwaits
    exact .inr ⟨deadline, verdict, rfl, Nat.lt_of_not_le fun hdue => hends (.inr (.inr hdue))⟩
  | _ => simp [step?, stepHead?, stepFrame?, hphase, hstopping] at hwaits

end Connection

namespace Session

variable {s s' : Session} {sys sys' : System}

/-- Whether the connection of a session may wait past a reading of the clock. -/
def mayLast (now : Nat) (s : Session) : Bool :=
  s.connection.phase.mayLast now

/-- Whether a session waits for nothing but its peer's close frame, past a reading of the clock. -/
def Lasts (now : Nat) (s : Session) : Prop :=
  ∃ deadline verdict, s.connection.phase = .draining deadline verdict ∧ now < deadline

theorem Waits.lasts {now : Nat} (h : s.Waits true now) : s.Lasts now := by
  have hunfinished : s.connection.phase ≠ .finished := by
    intro hphase
    simpa [isFinished, Connection.isFinished, hphase] using h.unfinished
  obtain ⟨deadline, verdict, hphase, hdeadline⟩ :=
    (Connection.drains_of_waits h.stopping_eq h.still).resolve_left hunfinished
  exact ⟨deadline, verdict, hphase, h.now_eq ▸ hdeadline⟩

theorem Lasts.mayLast {now : Nat} (h : s.Lasts now) : s.mayLast now = true := by
  obtain ⟨deadline, verdict, hphase, hdeadline⟩ := h
  rw [Session.mayLast, hphase]
  exact decide_eq_true hdeadline

/-- A session that may not last is past lasting, whatever comes. -/
theorem mayLast_of_progress {now : Nat} (h : s.progress.run sys = (s', sys'))
    (hlast : s'.mayLast now = true) : s.mayLast now = true := by
  by_contra hpast
  have hnever : s'.mayLast now = false := progress_induction
    (P := fun c => c.phase.mayLast now = false)
    (fun c writeFailure next hc hstep => Connection.mayLast_of_step? hstep hc)
    (fun _ => Bool.not_eq_true _ ▸ hpast) h
  rw [hlast] at hnever
  cases hnever

end Session

/-- Of the sessions that go on in a service that stops, no more stay than may last. -/
theorem Service.length_of_serveAll {sessions : List Session} {v v' : Service} {calls : List Call}
    {sys sys' : System} (h : (serveAll sessions v).run sys = ((v', calls), sys'))
    (hstopping : v.stopping = true) :
    v'.sessions.length ≤ v.sessions.length + sessions.countP (Session.mayLast sys.now) := by
  induction sessions generalizing v sys calls with
  | nil =>
    cases h
    exact Nat.le_add_right ..
  | cons s rest ih =>
    obtain ⟨s', mid, more, hnow, hprogress, hrest, -⟩ := exists_of_run_serveAll h
    have hserved : (retain { v with admission := s'.connection.admission } s').stopping = true := by
      rw [stopping_retain, hstopping]
    have hleft := ih hrest hserved
    rw [hnow] at hleft
    cases hopen : s'.isFinished with
    | true =>
      rw [retain_of_finished hopen] at hleft
      exact hleft.trans (Nat.add_le_add_left (List.sublist_cons_self s rest).countP_le _)
    | false =>
      have hwaits : s'.Waits true sys.now :=
        hstopping ▸ Session.waits_of_progress hprogress hopen
      have hbriefed := Session.mayLast_of_progress hprogress hwaits.lasts.mayLast
      have hmay : s.mayLast sys.now = true := hbriefed
      rw [retain_of_unfinished hopen, List.length_append, List.length_singleton] at hleft
      rw [List.countP_cons_of_pos hmay, Nat.add_comm (rest.countP _) 1, ← Nat.add_assoc]
      exact hleft

namespace Server

variable {s next : Server} {v : Service} {sys sys' : System}

theorem now_of_settle (h : s.settle.run sys = (next, sys')) : sys'.now = sys.now := by
  rw [← s.timeless_settle sys, h]

theorem sessions_of_settle (hv : s.service = some v) (hstopping : v.stopping = true)
    (h : s.settle.run sys = (next, sys')) :
    ∃ v', next.service = some v' ∧ v'.stopping = true ∧
      v'.sessions.length ≤ v.sessions.countP (Session.mayLast sys.now) ∧
        ∀ t ∈ v'.sessions, t.Lasts sys.now := by
  rcases hserve : (Service.serveAll v.sessions { v with sessions := [] }).run sys with
    ⟨⟨v', calls⟩, after⟩
  have hcount := Service.length_of_serveAll hserve hstopping
  rw [List.length_nil, Nat.zero_add] at hcount
  obtain ⟨hstopping', hwaits⟩ := Service.waits_of_serveAll hserve (List.forall_mem_nil _)
  rw [run_settle hv hserve] at h
  cases h
  refine ⟨v', rfl, hstopping'.trans hstopping, hcount, fun t ht => Session.Waits.lasts ?_⟩
  exact hstopping ▸ hwaits t ht

theorem run_awaitFor_succ {α : Type} {goal : Server → System → Option α} {fuel : Nat}
    (h : s.settle.run sys = (next, sys')) :
    (awaitFor goal (fuel + 1) s).run sys =
      match goal next sys', next.service.bind Service.nextDeadline? with
      | none, some deadline => (awaitFor goal fuel next).run (sys'.waitUntil deadline)
      | found, _ => ((found, next), sys') := by
  rw [awaitFor, StateT.run_bind, h]
  show StateT.run (match goal next sys', next.service.bind Service.nextDeadline? with
    | none, some deadline => (modify (·.waitUntil deadline) >>= fun _ => awaitFor goal fuel next)
    | found, _ => pure (found, next)) sys' = _
  split <;> rfl

/-- Waiting for the next deadline is the end of one session at least. -/
theorem countP_mayLast_lt {deadline : Nat} (hlasts : ∀ t ∈ v.sessions, t.Lasts sys.now)
    (h : v.nextDeadline? = some deadline) :
    v.sessions.countP (Session.mayLast (sys.waitUntil deadline).now) < v.sessions.length := by
  obtain ⟨hmem, -⟩ := List.min?_eq_some_iff.mp h
  obtain ⟨t, ht, hdeadline⟩ := List.mem_filterMap.mp hmem
  obtain ⟨own, verdict, hphase, -⟩ := hlasts t ht
  have hown : own = deadline := by
    simpa [Session.deadline?, Phase.deadline?, hphase] using hdeadline
  have hpast : t.mayLast (sys.waitUntil deadline).now = false := by
    rw [Session.mayLast, hphase, hown]
    exact decide_eq_false (Nat.not_lt.mpr (Nat.le_max_right sys.now deadline))
  exact List.countP_lt_length_iff.mpr ⟨t, ht, hpast⟩

/-- As long as sessions only drain there is a deadline to wait for. -/
theorem exists_nextDeadline? (hlasts : ∀ t ∈ v.sessions, t.Lasts sys.now) (h : v.sessions ≠ []) :
    ∃ deadline, v.nextDeadline? = some deadline := by
  obtain ⟨t, rest, hsessions⟩ := List.exists_cons_of_ne_nil h
  obtain ⟨own, verdict, hphase, -⟩ := hlasts t (hsessions ▸ List.mem_cons_self)
  have hdeadline : t.deadline? = some own := by rw [Session.deadline?, hphase, Phase.deadline?]
  rw [Service.nextDeadline?, hsessions, List.filterMap_cons_some hdeadline]
  exact ⟨_, List.min?_cons⟩

/-- When a server that stops has waited for all its sessions to be over, they are. -/
theorem sessions_awaitFor {fuel : Nat} {found : Option Unit} (hv : s.service = some v)
    (hstopping : v.stopping = true)
    (hfuel : v.sessions.countP (Session.mayLast sys.now) < fuel)
    (h : (awaitFor allOver fuel s).run sys = ((found, next), sys')) :
    ∃ v', next.service = some v' ∧ v'.stopping = true ∧ v'.sessions = [] := by
  induction fuel generalizing s v sys with
  | zero => exact absurd hfuel (Nat.not_lt_zero _)
  | succ fuel ih =>
    rcases hsettle : s.settle.run sys with ⟨settled, mid⟩
    obtain ⟨v', hv', hstopping', hcount, hlasts⟩ := sessions_of_settle hv hstopping hsettle
    rw [← now_of_settle hsettle] at hlasts
    have hsessions : settled.sessions = v'.sessions := by rw [sessions, hv']
    rw [run_awaitFor_succ hsettle, allOver, hsessions, hv', Option.bind_some] at h
    cases hleft : v'.sessions with
    | nil =>
      rw [hleft] at h
      cases h
      exact ⟨v', hv', hstopping', hleft⟩
    | cons t rest =>
      have hopen : v'.sessions ≠ [] := by rw [hleft]; exact List.cons_ne_nil t rest
      obtain ⟨deadline, hdeadline⟩ := exists_nextDeadline? hlasts hopen
      -- past the deadline fewer sessions may last, of which the fuel is a bound
      have hless := countP_mayLast_lt hlasts hdeadline
      rw [hdeadline, hleft] at h
      exact ih hv' hstopping' (by omega) h

/-- There are at least as many deadlines to wait for as sessions that may last. -/
theorem countP_mayLast_le (now : Nat) (sessions : List Session) :
    sessions.countP (Session.mayLast now) ≤
      Sequence.total (fun s => s.connection.phase.rank) sessions := by
  induction sessions with
  | nil => exact Nat.le_refl 0
  | cons t rest ih =>
    rw [Sequence.total]
    cases hmay : t.mayLast now with
    | true =>
      have hrank : 0 < t.connection.phase.rank := Phase.rank_pos_of_mayLast hmay
      rw [List.countP_cons_of_pos hmay]
      omega
    | false =>
      rw [List.countP_cons_of_neg (by simp [hmay])]
      omega

theorem run_windDown {found : Option Unit}
    (h : (awaitFor allOver (v.patience + 1)
      { s with service := some { v with stopping := true } }).run (v.listener.close.run sys).2 =
        ((found, next), sys')) :
    (s.windDown v).run sys = (next, sys') := by
  rw [windDown, StateT.run_bind]
  show StateT.run (awaitFor allOver (v.patience + 1)
    { s with service := some { v with stopping := true } } >>= _) (v.listener.close.run sys).2 = _
  rw [StateT.run_bind, h]
  rfl

/-- A server that winds down has no sessions left. -/
theorem sessions_windDown (h : (s.windDown v).run sys = (next, sys')) :
    ∃ v', next.service = some v' ∧ v'.stopping = true ∧ v'.sessions = [] := by
  rcases hawait : (awaitFor allOver (v.patience + 1)
    { s with service := some { v with stopping := true } }).run (v.listener.close.run sys).2 with
    ⟨⟨found, waited⟩, after⟩
  rw [run_windDown hawait] at h
  cases h
  have hfuel := countP_mayLast_le (v.listener.close.run sys).2.now v.sessions
  have hfuel' : v.sessions.countP (Session.mayLast (v.listener.close.run sys).2.now) <
      v.patience + 1 := by
    unfold Service.patience
    omega
  exact sessions_awaitFor (v := { v with stopping := true }) rfl rfl hfuel' hawait

theorem run_stop (hv : s.service = some v) (h : (s.windDown v).run sys = (next, sys')) :
    s.stop.run sys = ({ next with service := none, active := next.connections }, sys') := by
  rw [stop, hv]
  show StateT.run (s.windDown v >>= _) sys = _
  rw [StateT.run_bind, h]
  rfl

end Server

namespace Scene

variable (server : Server) (answering : List (Session × Except Error Upgrade.Request))

theorem reaches_awaitFor {α : Type} {goal : Server → System → Option α} {fuel : Nat}
    {found : Option α} {next : Server} {sys sys' : System}
    (h : (Server.awaitFor goal fuel server).run sys = ((found, next), sys')) :
    Reaches ⟨server, answering, sys⟩ ⟨next, answering, sys'⟩ := by
  induction fuel generalizing server sys with
  | zero =>
    cases h
    exact .refl
  | succ fuel ih =>
    rcases hsettle : server.settle.run sys with ⟨settled, mid⟩
    have hreach := reaches_settle server answering hsettle
    rw [Server.run_awaitFor_succ hsettle] at h
    split at h
    · rename_i deadline _ _
      exact (hreach.tail (.outside (mid.waitUntil deadline))).trans (ih settled h)
    · cases h
      exact hreach

/-- A server that winds down does what could happen to it while its sessions end. -/
theorem reaches_windDown {v : Service} {next : Server} {sys sys' : System}
    (hv : server.service = some v) (h : (server.windDown v).run sys = (next, sys')) :
    Reaches ⟨server, answering, sys⟩ ⟨next, answering, sys'⟩ := by
  rcases hawait : (Server.awaitFor Server.allOver (v.patience + 1)
    { server with service := some { v with stopping := true } }).run
    (v.listener.close.run sys).2 with ⟨⟨found, waited⟩, after⟩
  rw [Server.run_windDown hawait] at h
  cases h
  exact .head (.order hv) (reaches_awaitFor _ answering hawait)

end Scene
end WebSocket
