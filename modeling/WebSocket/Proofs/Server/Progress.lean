import WebSocket.Connection.Progress
import WebSocket.Proofs.Server.Acceptance
import WebSocket.Proofs.Server.Run

/-
How a session goes on.  What has come to its socket is brought to its connection, which takes steps
until it waits or is over (`Session.waits_of_progress`); the clock stands still meanwhile.
-/
namespace WebSocket

/-! ## The clock -/

/-- Whether the clock stands still during an operation. -/
def Timeless {α : Type} (a : StateM System α) : Prop :=
  ∀ sys, (a.run sys).2.now = sys.now

theorem timeless_pure {α : Type} (x : α) : Timeless (pure x) :=
  fun _ => rfl

theorem timeless_get : Timeless get :=
  fun _ => rfl

theorem Timeless.bind {α β : Type} {a : StateM System α} {k : α → StateM System β}
    (ha : Timeless a) (hk : ∀ x, Timeless (k x)) : Timeless (a >>= k) :=
  fun sys => (hk (a.run sys).1 (a.run sys).2).trans (ha sys)

namespace System

theorem now_act {α : Type} (sys : System) (f : Network → Except Int (α × Network)) :
    (sys.act f).2.now = sys.now := by
  unfold act
  split <;> rfl

theorem now_perform {α : Type} (sys : System) (call : SystemCall)
    (f : Network → Except Int (α × Network)) : (sys.perform call f).2.now = sys.now := by
  unfold perform
  split
  · rfl
  · exact now_act ..

theorem now_send (sys : System) (id : Nat) (data : Bytes) : (sys.send id data).2.now = sys.now := by
  unfold send
  split
  · rfl
  · exact now_act ..
  · exact now_act ..

end System

namespace Session

theorem timeless_sendParts (socket fuel : Nat) (data : Bytes) :
    Timeless (sendParts socket fuel data) := by
  induction fuel generalizing data with
  | zero => exact timeless_pure none
  | succ fuel ih =>
    unfold sendParts
    split
    · exact timeless_pure none
    · refine Timeless.bind (fun sys => sys.now_send socket data) fun sent => ?_
      split
      · exact timeless_pure _
      · exact ih _
      · split
        · exact ih _
        · exact timeless_pure _

theorem timeless_send (s : Session) (data : Bytes) : Timeless (s.send data) :=
  timeless_get.bind fun _ => timeless_sendParts _ _ _

theorem timeless_step? (s : Session) : Timeless s.step? :=
  (s.timeless_send _).bind fun _ => timeless_pure _

theorem timeless_run (fuel : Nat) (s : Session) : Timeless (run fuel s) := by
  induction fuel generalizing s with
  | zero => exact timeless_pure s
  | succ fuel ih =>
    refine s.timeless_step?.bind fun next => ?_
    cases next with
    | some s => exact ih s
    | none => exact timeless_pure s

/-- A session that runs waits, or takes a step and runs on. -/
theorem run_succ (fuel : Nat) (s : Session) (sys : System) :
    ∃ writeFailure mid, mid.now = sys.now ∧
      ((Connection.step? { s.connection with writeFailure } = none ∧
        (run (fuel + 1) s).run sys = (s, mid)) ∨
      ∃ next, Connection.step? { s.connection with writeFailure } = some next ∧
        (run (fuel + 1) s).run sys = (run fuel { s with connection := next }).run mid) := by
  rcases hsend : (s.send s.connection.nextWrite).run sys with ⟨writeFailure, mid⟩
  have hnow : mid.now = sys.now := by
    rw [← s.timeless_send s.connection.nextWrite sys, hsend]
  have hstep : s.step?.run sys =
      ((Connection.step? { s.connection with writeFailure }).map
        fun connection => { s with connection }, mid) := by
    rw [step?, StateT.run_bind, hsend]
    rfl
  refine ⟨writeFailure, mid, hnow, ?_⟩
  rw [run, StateT.run_bind, hstep]
  cases hnext : Connection.step? { s.connection with writeFailure } with
  | none => exact .inl ⟨rfl, rfl⟩
  | some next => exact .inr ⟨next, rfl, rfl⟩

theorem take_nothing (s : Session) : s.take [] [] false = s := by
  have hportions : portions s.room s.received [] = ([], s.room) := by
    unfold portions
    rfl
  have hdeliver : s.connection.codec.inbox.deliver [] = s.connection.codec.inbox := by
    simp only [Inbox.deliver, List.filter_nil, List.map_nil, List.append_nil]
  unfold take
  simp only [hportions, List.foldl_nil, hdeliver, Bool.false_eq_true, if_false]
  rfl

theorem run_receive (s : Session) (sys : System) :
    ∃ failures data ended after, s.receive.run sys = (s.take failures data ended, after) ∧
      after.now = sys.now := by
  have hnothing : (s, sys) = (s.take [] [] false, sys) := by rw [s.take_nothing]
  unfold receive
  rw [run_get_then]
  split
  · exact ⟨[], [], false, sys, hnothing, rfl⟩
  · rename_i socket _
    split
    · exact ⟨[], [], false, sys, hnothing, rfl⟩
    · have hnow := sys.now_perform .receive fun n => .ok ((), n)
      exact ⟨_, socket.arrived, socket.ended, _, rfl, hnow⟩

theorem timeless_receive (s : Session) : Timeless s.receive := by
  intro sys
  obtain ⟨failures, data, ended, after, h, hnow⟩ := s.run_receive sys
  rw [h, hnow]

/-- A session that goes on takes up what has come and runs; then its socket is closed if it is
over. -/
theorem exists_of_run_progress {s s' : Session} {sys sys' : System}
    (h : s.progress.run sys = (s', sys')) :
    ∃ failures data ended arrived mid, arrived.now = sys.now ∧
      (run (s.take failures data ended).connection.work (s.take failures data ended)).run arrived =
        (s', mid) ∧
      sys' = if s'.isFinished then { mid with network := mid.network.close s'.socket } else mid := by
  obtain ⟨failures, data, ended, arrived, hreceive, hnow⟩ := s.run_receive sys
  refine ⟨failures, data, ended, arrived, ?_⟩
  generalize s.take failures data ended = taken at hreceive ⊢
  rcases hrun : (run taken.connection.work taken).run arrived with ⟨last, mid⟩
  have hprogress : s.progress.run sys = (last,
      if last.isFinished then { mid with network := mid.network.close last.socket } else mid) := by
    unfold progress
    rw [StateT.run_bind, hreceive]
    show StateT.run (run taken.connection.work taken >>= _) arrived = _
    rw [StateT.run_bind, hrun]
    show StateT.run (if last.isFinished = true then _ else _) mid = _
    cases last.isFinished <;> rfl
  rw [hprogress] at h
  cases h
  exact ⟨mid, hnow, rfl, rfl⟩

theorem timeless_progress (s : Session) : Timeless s.progress := by
  refine s.timeless_receive.bind fun s => (timeless_run s.connection.work s).bind fun s => ?_
  split
  · exact fun sys => rfl
  · exact timeless_pure s

end Session

/-! ## Waiting -/

namespace Connection

/-- Whether a connection waits depends neither on whether it could write nor on admission. -/
theorem isSome_step?_with (c : Connection) (writeFailure : Option IoFailure)
    (admission : Admission.Controller) (admissionTime : Nat) :
    (step? { c with writeFailure, admission, admissionTime }).isSome = c.step?.isSome := by
  have hlate (deadline : Option Nat) (d e : Connection) :
      (if isDue { c with writeFailure, admission, admissionTime } deadline then some d
        else none).isSome = (if c.isDue deadline then some e else none).isSome := by
    rw [Bool.eq_iff_iff, Option.isSome_ite, Option.isSome_ite]
    exact Iff.rfl
  unfold step?
  cases hp : c.phase with
  | accepted => rfl
  | awaitingHead deadline =>
    simp only [stepHead?]
    split
    · rfl
    · split <;> first | rfl | exact hlate deadline _ _
  | awaitingFrame deadline =>
    simp only [stepFrame?]
    split
    · rfl
    · split <;> first | rfl | exact hlate deadline _ _
  | draining deadline verdict =>
    simp only [stepDrain?]
    split <;> first | rfl | exact hlate (some deadline) _ _
  | finished => rfl

end Connection

namespace Session

variable {s s' : Session} {sys sys' : System}

/-- What every step of a connection preserves, a session that runs preserves. -/
theorem run_induction {P : Connection → Prop}
    (hstep : ∀ c writeFailure next, P c →
      Connection.step? { c with writeFailure } = some next → P next)
    {fuel : Nat} (h : (run fuel s).run sys = (s', sys')) (hs : P s.connection) :
    P s'.connection := by
  induction fuel generalizing s sys with
  | zero =>
    cases h
    exact hs
  | succ fuel ih =>
    obtain ⟨writeFailure, mid, -, ⟨-, hrun⟩ | ⟨next, hnext, hrun⟩⟩ := s.run_succ fuel sys
    · rw [hrun] at h
      cases h
      exact hs
    · rw [hrun] at h
      exact ih h (hstep _ _ _ hs hnext)

/-- As many steps as there is work are enough. -/
theorem step?_of_run {fuel : Nat} (hfuel : s.connection.work ≤ fuel)
    (h : (run fuel s).run sys = (s', sys')) : s'.connection.step? = none := by
  induction fuel generalizing s sys with
  | zero =>
    cases h
    exact Connection.step?_run hfuel
  | succ fuel ih =>
    obtain ⟨writeFailure, mid, -, ⟨hnone, hrun⟩ | ⟨next, hnext, hrun⟩⟩ := s.run_succ fuel sys
    · rw [hrun] at h
      cases h
      -- that it waits was found with the outcome of a write, which makes no difference
      have hsome := s'.connection.isSome_step?_with writeFailure s'.connection.admission
        s'.connection.admissionTime
      rw [hnone] at hsome
      exact Option.not_isSome_iff_eq_none.mp (Bool.eq_false_iff.mp hsome.symm)
    · rw [hrun] at h
      have hless := Connection.work_lt_of_step? hnext
      have hfuel' : next.work ≤ fuel := Nat.le_of_lt_succ (Nat.lt_of_lt_of_le hless hfuel)
      exact ih (s := { s with connection := next }) hfuel' h

/-- Whether a session waits that is not over, as it was left at a reading of the clock. -/
structure Waits (stopping : Bool) (now : Nat) (s : Session) : Prop where
  unfinished : s.isFinished = false
  still : s.connection.step? = none
  stopping_eq : s.connection.stopping = stopping
  now_eq : s.connection.now = now

/-- What every step of a connection preserves, a session that goes on preserves, when it holds of
whatever may have come. -/
theorem progress_induction {P : Connection → Prop}
    (hstep : ∀ c writeFailure next, P c →
      Connection.step? { c with writeFailure } = some next → P next)
    (htake : ∀ codec, P { s.connection with codec }) (h : s.progress.run sys = (s', sys')) :
    P s'.connection := by
  obtain ⟨failures, data, ended, arrived, mid, -, hrun, -⟩ := exists_of_run_progress h
  exact run_induction hstep hrun (htake (s.take failures data ended).connection.codec)

/-- A session that has gone on is over, or waits. -/
theorem waits_of_progress (h : s.progress.run sys = (s', sys')) (hopen : s'.isFinished = false) :
    s'.Waits s.connection.stopping s.connection.now := by
  -- a session is told of the order and the time before it goes on, and no step changes either
  obtain ⟨hstopping, hnow⟩ := progress_induction
    (P := fun c => c.stopping = s.connection.stopping ∧ c.now = s.connection.now)
    (fun c writeFailure next hc hstep => by
      obtain ⟨codec, -, hground⟩ := Connection.exists_ground_of_step? hstep
      exact ⟨(congrArg Connection.Ground.stopping hground).trans hc.1,
        (congrArg Connection.Ground.now hground).trans hc.2⟩)
    (fun _ => ⟨rfl, rfl⟩) h
  obtain ⟨failures, data, ended, arrived, mid, -, hrun, -⟩ := exists_of_run_progress h
  exact ⟨hopen, step?_of_run (Nat.le_refl _) hrun, hstopping, hnow⟩

/-- A session waits whatever has become of admission. -/
theorem Waits.step?_refresh {v : Service} {now : Nat} (h : s.Waits v.stopping now) :
    (v.refresh now s.connection).step? = none := by
  have hsome := s.connection.isSome_step?_with s.connection.writeFailure v.admission now
  have hsame : ({ s.connection with admission := v.admission, admissionTime := now } : Connection) =
      v.refresh now s.connection := by
    rw [Service.refresh, ← h.stopping_eq, ← h.now_eq]
  rw [h.still, hsame] at hsome
  exact Option.not_isSome_iff_eq_none.mp (Bool.eq_false_iff.mp hsome)

end Session
end WebSocket
