import WebSocket.Proofs.Server.Progress

/-
The order in which a server lets its sessions go on.  It is one of the orders that they could take
their steps in (`Scene.reaches_settle`), in which no session has half of a step behind it while
another goes on.  The clock stands still meanwhile.
-/
namespace WebSocket

/-! ## Sessions, one after the other -/

namespace Service

theorem timeless_serve (v : Service) (s : Session) : Timeless (v.serve s) :=
  timeless_get.bind fun _ => (Session.timeless_progress _).bind fun _ => timeless_pure _

theorem timeless_serveAll (sessions : List Session) (v : Service) :
    Timeless (serveAll sessions v) := by
  induction sessions generalizing v with
  | nil => exact timeless_pure _
  | cons s rest ih => exact (v.timeless_serve s).bind fun _ => (ih _).bind fun _ => timeless_pure _

variable {v : Service} {now : Nat} {c next : Connection}

theorem refresh_eq_self_iff : v.refresh now c = c ↔
    v.admission = c.admission ∧ v.stopping = c.stopping ∧ now = c.now ∧ now = c.admissionTime := by
  constructor
  · intro h
    exact ⟨congrArg Connection.admission h, congrArg Connection.stopping h,
      congrArg Connection.now h, congrArg Connection.admissionTime h⟩
  · rintro ⟨hadmission, hstopping, hnow, htime⟩
    obtain ⟨⟩ := c
    simp only at hadmission hstopping hnow htime
    simp only [refresh, hadmission, hstopping, ← hnow, ← htime]

/-- A connection that finds the service as it is still does so after a step. -/
theorem refresh_of_step? (h : v.refresh now c = c) {writeFailure : Option IoFailure}
    (hs : Connection.step? { c with writeFailure } = some next) :
    Service.refresh { v with admission := next.admission } now next = next := by
  obtain ⟨-, hstopping, hnow, htime⟩ := refresh_eq_self_iff.mp h
  obtain ⟨codec, -, hground⟩ := Connection.exists_ground_of_step? hs
  have hstopping' : next.stopping = c.stopping := congrArg Connection.Ground.stopping hground
  have hnow' : next.now = c.now := congrArg Connection.Ground.now hground
  have htime' : next.admissionTime = c.admissionTime :=
    congrArg Connection.Ground.admissionTime hground
  exact refresh_eq_self_iff.mpr
    ⟨rfl, hstopping.trans hstopping'.symm, hnow.trans hnow'.symm, htime.trans htime'.symm⟩

/-- What the application hears of a session that goes on to another. -/
def news (v : Service) (s next : Session) : List Call :=
  v.application.heard
    (Connection.callsOf (next.connection.effects.drop s.connection.effects.length))

theorem exists_of_run_serveAll {s : Session} {rest : List Session} {v' : Service}
    {calls : List Call} {sys sys' : System}
    (h : (serveAll (s :: rest) v).run sys = ((v', calls), sys')) :
    ∃ s' mid more, mid.now = sys.now ∧
      (Session.progress { s with connection := v.refresh sys.now s.connection }).run sys =
        (s', mid) ∧
      (serveAll rest (retain { v with admission := s'.connection.admission } s')).run mid =
        ((v', more), sys') ∧
      calls = v.news s s' ++ more := by
  rcases hprogress : (Session.progress
    { s with connection := v.refresh sys.now s.connection }).run sys with ⟨s', mid⟩
  have hserve : (v.serve s).run sys =
      (({ v with admission := s'.connection.admission }, s', v.news s s'), mid) := by
    unfold serve
    rw [run_get_then, StateT.run_bind, hprogress]
    rfl
  rcases hrest : (serveAll rest (retain { v with admission := s'.connection.admission } s')).run mid
    with ⟨⟨last, more⟩, after⟩
  have hall : (serveAll (s :: rest) v).run sys =
      ((last, v.news s s' ++ more), after) := by
    rw [serveAll, StateT.run_bind, hserve]
    show StateT.run (serveAll rest
      (retain { v with admission := s'.connection.admission } s') >>= _) mid = _
    rw [StateT.run_bind, hrest]
    rfl
  rw [hall] at h
  cases h
  refine ⟨s', mid, more, ?_, rfl, hrest, rfl⟩
  rw [← Session.timeless_progress _ sys, hprogress]

theorem retain_of_finished {s : Session} (h : s.isFinished = true) :
    v.retain s = { v with active := v.active - 1 } :=
  if_pos h

theorem retain_of_unfinished {s : Session} (h : s.isFinished = false) :
    v.retain s = { v with sessions := v.sessions ++ [s] } := by
  rw [retain, h]
  rfl

theorem stopping_retain (v : Service) (s : Session) : (v.retain s).stopping = v.stopping := by
  unfold retain
  split <;> rfl

theorem waits_of_serveAll {sessions : List Session} {v' : Service} {calls : List Call}
    {sys sys' : System} (h : (serveAll sessions v).run sys = ((v', calls), sys'))
    (hv : ∀ s ∈ v.sessions, s.Waits v.stopping sys.now) :
    v'.stopping = v.stopping ∧ ∀ s ∈ v'.sessions, s.Waits v.stopping sys.now := by
  induction sessions generalizing v sys calls with
  | nil =>
    cases h
    exact ⟨rfl, hv⟩
  | cons s rest ih =>
    obtain ⟨s', mid, more, hnow, hprogress, hrest, -⟩ := exists_of_run_serveAll h
    have hserved : ∀ t ∈ (retain { v with admission := s'.connection.admission } s').sessions,
        t.Waits v.stopping mid.now := by
      rw [hnow]
      cases hopen : s'.isFinished with
      | true =>
        rw [retain_of_finished hopen]
        exact hv
      | false =>
        rw [retain_of_unfinished hopen]
        have hwaits := Session.waits_of_progress hprogress hopen
        exact List.forall_mem_append.mpr ⟨hv, List.forall_mem_singleton.mpr hwaits⟩
    obtain ⟨hstopping, hwaits⟩ := ih hrest (by rw [stopping_retain]; exact hserved)
    rw [stopping_retain, hnow] at hwaits
    exact ⟨hstopping.trans (stopping_retain ..), hwaits⟩

end Service

namespace Server

variable {s : Server} {v v' : Service} {calls : List Call} {sys after : System}

theorem run_settle_of_stopped (h : s.service = none) (sys : System) :
    s.settle.run sys = (s, sys) := by
  rw [settle, h]
  rfl

theorem run_settle (hv : s.service = some v)
    (h : (Service.serveAll v.sessions { v with sessions := [] }).run sys = ((v', calls), after)) :
    s.settle.run sys = ({ s with service := some v', heard := s.heard ++ calls }, after) := by
  rw [settle, hv]
  show StateT.run (Service.serveAll v.sessions { v with sessions := [] } >>= _) sys = _
  rw [StateT.run_bind, h]
  rfl

/-- The sessions that are left when a server has let them go on wait. -/
theorem waits_of_settle {next : Server} (hv : s.service = some v)
    (h : s.settle.run sys = (next, after)) :
    ∃ v', next.service = some v' ∧ v'.stopping = v.stopping ∧
      ∀ t ∈ v'.sessions, t.Waits v.stopping sys.now := by
  rcases hserve : (Service.serveAll v.sessions { v with sessions := [] }).run sys with
    ⟨⟨v', calls⟩, _⟩
  have hwaits := Service.waits_of_serveAll hserve (List.forall_mem_nil _)
  rw [run_settle hv hserve] at h
  cases h
  exact ⟨v', rfl, hwaits⟩

theorem timeless_settle (s : Server) : Timeless s.settle := by
  unfold settle
  split
  · exact timeless_pure s
  · exact (Service.timeless_serveAll _ _).bind fun _ => timeless_pure _

end Server

namespace Scene

variable (server : Server) (answering : List (Session × Except Error Upgrade.Request))

theorem reaches_run {fuel : Nat} {s s' : Session} {v : Service} {sys sys' : System}
    {before after : List Session} (hs : v.sessions = before ++ s :: after)
    (hc : v.refresh sys.now s.connection = s.connection)
    (h : (Session.run fuel s).run sys = (s', sys')) :
    Reaches ⟨{ server with service := some v }, answering, sys⟩
      ⟨{ server with service := some { v with
          admission := s'.connection.admission
          sessions := before ++ s' :: after } }, answering, sys'⟩ := by
  induction fuel generalizing s v sys with
  | zero =>
    cases h
    have hadmission := (Service.refresh_eq_self_iff.mp hc).1
    rw [← hadmission, ← hs]
    exact .refl
  | succ fuel ih =>
    obtain ⟨writeFailure, mid, hnow, ⟨-, hrun⟩ | ⟨next, hnext, hrun⟩⟩ := s.run_succ fuel sys
    · rw [hrun] at h
      cases h
      have hadmission := (Service.refresh_eq_self_iff.mp hc).1
      rw [← hadmission, ← hs]
      exact .single (.outside sys')
    · rw [hrun] at h
      have hready : Connection.step? { v.refresh sys.now s.connection with writeFailure } =
          some next := by rw [hc, hnext]
      have hnext' := Service.refresh_of_step? hc hnext
      rw [← hnow] at hnext'
      -- the service takes over what the step has made of admission, so the next step finds it so
      exact .head (.step rfl hs writeFailure _ hready) (.head (.outside mid)
        (ih (v := { v with
          admission := next.admission
          sessions := before ++ { s with connection := next } :: after }) rfl hnext' h))

/-- A session that is taken up again and goes on does what it could do by itself.  What is left to
do then is to close the socket of one that is over. -/
theorem reaches_progress {s s' : Session} {v : Service} {sys sys' : System}
    {before after : List Session} (hs : v.sessions = before ++ s :: after)
    (h : (Session.progress { s with connection := v.refresh sys.now s.connection }).run sys =
      (s', sys')) :
    ∃ mid, Reaches ⟨{ server with service := some v }, answering, sys⟩
      ⟨{ server with service := some { v with
          admission := s'.connection.admission
          sessions := before ++ s' :: after } }, answering, mid⟩ ∧
      sys' = if s'.isFinished then { mid with network := mid.network.close s'.socket } else mid := by
  obtain ⟨failures, data, ended, arrived, mid, hnow, hrun, rfl⟩ :=
    Session.exists_of_run_progress h
  refine ⟨mid, .head (.receive rfl hs failures data ended) (.head (.outside arrived) ?_), rfl⟩
  generalize htaken : Session.take { s with connection := v.refresh sys.now s.connection }
    failures data ended = taken at hrun ⊢
  have hc : v.refresh arrived.now taken.connection = taken.connection := by
    rw [← htaken, hnow]
    rfl
  exact reaches_run server answering (v := { v with sessions := before ++ taken :: after }) rfl hc
    hrun

theorem reaches_retain {w : Scene} {s : Session} {v kept : Service} {before after : List Session}
    (hv : w.server.service = some v) (hs : v.sessions = before ++ s :: after)
    (hkept : Service.retain { v with sessions := before } s = kept) :
    Reaches w { w.serving { kept with sessions := kept.sessions ++ after } with
      system := if s.isFinished then { w.system with network := w.system.network.close s.socket }
        else w.system } := by
  subst hkept
  cases hover : s.isFinished with
  | true =>
    rw [Service.retain_of_finished hover, if_pos rfl]
    exact .single (.retire hv hs hover)
  | false =>
    rw [Service.retain_of_unfinished hover, if_neg Bool.false_ne_true, List.append_assoc,
      List.singleton_append]
    have hsame : w.serving { v with sessions := before ++ s :: after } = w := by
      rw [← hs, serving, ← hv]
    exact hsame.symm ▸ .refl

theorem reaches_serveAll {sessions : List Session} {v v' : Service} {calls : List Call}
    {sys sys' : System} (h : (Service.serveAll sessions v).run sys = ((v', calls), sys')) :
    Reaches ⟨{ server with service := some { v with sessions := v.sessions ++ sessions } },
        answering, sys⟩
      ⟨{ server with service := some v', heard := server.heard ++ calls }, answering, sys'⟩ := by
  induction sessions generalizing server v calls sys with
  | nil =>
    cases h
    rw [List.append_nil, List.append_nil]
    exact .refl
  | cons s rest ih =>
    obtain ⟨s', mid, more, -, hprogress, hrest, rfl⟩ := Service.exists_of_run_serveAll h
    -- those in front have gone on already, and those behind are still to do so
    have hs : ({ v with sessions := v.sessions ++ s :: rest } : Service).sessions =
        v.sessions ++ s :: rest := rfl
    obtain ⟨closed, hreach, rfl⟩ := reaches_progress server answering hs hprogress
    have hserved := (hreach.trans (reaches_retain rfl rfl rfl)).tail (.hear (v.news s s'))
    have hothers := ih { server with heard := server.heard ++ v.news s s' } hrest
    rw [List.append_assoc] at hothers
    exact hserved.trans hothers

/-- A server lets its sessions go on as they could by themselves. -/
theorem reaches_settle {next : Server} {sys sys' : System}
    (h : server.settle.run sys = (next, sys')) :
    Reaches ⟨server, answering, sys⟩ ⟨next, answering, sys'⟩ := by
  cases hv : server.service with
  | none =>
    rw [Server.run_settle_of_stopped hv] at h
    cases h
    exact .refl
  | some v =>
    rcases hsettle : (Service.serveAll v.sessions { v with sessions := [] }).run sys with
      ⟨⟨v', calls⟩, after⟩
    rw [Server.run_settle hv hsettle] at h
    cases h
    have hreach := reaches_serveAll server answering hsettle
    have hsame : { server with service := some v } = server := by rw [← hv]
    exact hsame ▸ hreach

/-- A server that has let its sessions go on is at rest. -/
theorem atRest_of_settle {server next : Server} {v : Service} {sys sys' : System}
    (h : server.settle.run sys = (next, sys')) (hv : next.service = some v) :
    AtRest ⟨next, [], sys'⟩ v := by
  cases hbefore : server.service with
  | none =>
    rw [Server.run_settle_of_stopped hbefore] at h
    cases h
    rw [hbefore] at hv
    cases hv
  | some before =>
    obtain ⟨v', hv', hstopping, hwaits⟩ := Server.waits_of_settle hbefore h
    rw [hv] at hv'
    cases hv'
    rw [← hstopping, ← server.timeless_settle sys, h] at hwaits
    exact ⟨rfl, fun s hs => ⟨(hwaits s hs).unfinished, (hwaits s hs).step?_refresh⟩⟩

end Scene
end WebSocket
