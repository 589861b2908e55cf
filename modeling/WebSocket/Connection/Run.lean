import WebSocket.Connection.Progress

/-
The runs of a connection.  It takes its steps among all that happens outside: bytes arrive or the
peer closes, reads and writes begin to fail and stop failing, time passes, the server is ordered to
stop, and other clients are admitted.  What happens outside changes what a connection will find,
and nothing that it has done (`SameInside`).
-/
namespace WebSocket
namespace Connection

/-- What a run is made of: the steps of a connection, and what happens between them. -/
inductive Move
  | step
  | event (e : Event)
  | writes (failure : Option IoFailure)
  | flushes (failure : Option IoFailure)
  | elsewhere (admission : Admission.Controller) (time : Nat)
deriving DecidableEq

namespace Move

/-- Whether a move is no disturbance: nothing fails, the server goes on, and the peer does not
close. -/
def isCalm : Move → Bool
  | .step => true
  | .event (.deliver _) => true
  | .event (.advance _) => true
  | .event .nothing => true
  | .elsewhere _ _ => true
  | _ => false

/-- The chunks that a move brings. -/
def chunks : Move → List Bytes
  | .event (.deliver chunks) => chunks
  | _ => []

end Move

/-- The bytes that moves bring. -/
def delivered (moves : List Move) : Bytes :=
  (moves.flatMap Move.chunks).flatten

/-- The connection after a step, or as it is while it waits. -/
def advance (c : Connection) : Connection :=
  c.step?.getD c

/-- The connection after a move. -/
def move (c : Connection) : Move → Connection
  | .step => c.advance
  | .event e => c.apply e
  | .writes failure => { c with writeFailure := failure }
  | .flushes failure => { c with flushFailure := failure }
  | .elsewhere admission time => { c with admission, admissionTime := time }

/-- The connection after a run. -/
def after (c : Connection) (moves : List Move) : Connection :=
  moves.foldl move c

theorem after_append (c : Connection) (earlier later : List Move) :
    c.after (earlier ++ later) = (c.after earlier).after later :=
  List.foldl_append

/-- What a step preserves, and every move that leaves the inside as it is, a run preserves. -/
theorem after_induction {P : Connection → Prop}
    (hstep : ∀ c next, P c → c.step? = some next → P next)
    (hmove : ∀ c m, P c → m ≠ .step → P (c.move m)) {c : Connection} (hc : P c)
    (moves : List Move) : P (c.after moves) := by
  induction moves generalizing c with
  | nil => exact hc
  | cons m moves ih =>
    apply ih
    by_cases hm : m = .step
    · subst hm
      show P (c.step?.getD c)
      cases hs : c.step? with
      | none => exact hc
      | some next => exact hstep c next hc hs
    · exact hmove c m hc hm

/-- Two connections that differ at most in what they will find. -/
structure SameInside (c d : Connection) : Prop where
  config : c.config = d.config
  application : c.application = d.application
  peer : c.peer = d.peer
  client : c.client = d.client
  permit : c.permit = d.permit
  state : c.state = d.state
  phase : c.phase = d.phase
  connected : c.connected = d.connected
  buffer : c.codec.buffer = d.codec.buffer
  log : c.log = d.log

theorem sameInside_apply (c : Connection) (e : Event) : (c.apply e).SameInside c := by
  cases e <;> exact ⟨rfl, rfl, rfl, rfl, rfl, rfl, rfl, rfl, rfl, rfl⟩

/-- A move that is no step leaves the inside of a connection. -/
theorem sameInside_move {m : Move} (h : m ≠ .step) (c : Connection) :
    (c.move m).SameInside c := by
  cases m with
  | step => exact absurd rfl h
  | event e => exact sameInside_apply c e
  | writes failure => exact ⟨rfl, rfl, rfl, rfl, rfl, rfl, rfl, rfl, rfl, rfl⟩
  | flushes failure => exact ⟨rfl, rfl, rfl, rfl, rfl, rfl, rfl, rfl, rfl, rfl⟩
  | elsewhere admission time => exact ⟨rfl, rfl, rfl, rfl, rfl, rfl, rfl, rfl, rfl, rfl⟩

/-- A run changes neither the configuration nor the application nor the peer. -/
theorem origin_after (c : Connection) (moves : List Move) :
    (c.after moves).config = c.config ∧ (c.after moves).application = c.application ∧
      (c.after moves).peer = c.peer := by
  refine after_induction (P := fun d => d.config = c.config ∧ d.application = c.application ∧
    d.peer = c.peer) (fun d next hd hs => ?_) (fun d m hd hm => ?_) ⟨rfl, rfl, rfl⟩ moves
  · obtain ⟨codec, -, hg⟩ := exists_ground_of_step? hs
    have hconfig : next.config = d.config := congrArg Ground.config hg
    have happlication : next.application = d.application := congrArg Ground.application hg
    have hpeer : next.peer = d.peer := congrArg Ground.peer hg
    rw [hconfig, happlication, hpeer]
    exact hd
  · have hinside := sameInside_move hm d
    rw [hinside.config, hinside.application, hinside.peer]
    exact hd

/-! ## The end -/

/-- What the peer has closed stays closed. -/
theorem ended_after {c : Connection} (h : c.codec.inbox.ended = true) (moves : List Move) :
    (c.after moves).codec.inbox.ended = true := by
  refine after_induction (P := fun d => d.codec.inbox.ended = true) (fun d next hd hs => ?_)
    (fun d m hd hm => ?_) h moves
  · obtain ⟨codec, hread, hg⟩ := exists_ground_of_step? hs
    have hcodec : next.codec = codec := congrArg Ground.codec hg
    rw [hcodec, hread.ended]
    exact hd
  · cases m with
    | step => exact absurd rfl hm
    | event e =>
      cases e with
      | endOfInput => rfl
      | _ => exact hd
    | _ => exact hd

/-- A connection that has nothing to wait for is over when it takes no step. -/
theorem isFinished_of_step? {c : Connection} (hended : c.codec.inbox.ended = true)
    (h : c.step? = none) : c.isFinished = true := by
  have hwait : ∀ {α : Type} (scan : Bytes → Scan α), c.codec.step scan ≠ .waiting := by
    intro α scan hw
    have hopen := (Codec.step_waiting hw).2.2
    rw [hended] at hopen
    cases hopen
  unfold step? at h
  split at h
  · cases h
  · unfold stepHead? at h
    split at h
    · cases h
    · split at h
      · cases h
      · cases h
      · cases h
      · exact absurd ‹_› (hwait _)
  · unfold stepFrame? at h
    split at h
    · cases h
    · split at h
      · cases h
      · cases h
      · cases h
      · exact absurd ‹_› (hwait _)
  · unfold stepDrain? at h
    split at h
    · cases h
    · cases h
    · cases h
    · exact absurd ‹_› (hwait _)
  · rename_i hp
    rw [isFinished, hp]
    rfl

theorem exists_after_eq_run (fuel : Nat) (c : Connection) :
    ∃ steps, c.after (List.replicate steps .step) = run fuel c := by
  induction fuel generalizing c with
  | zero => exact ⟨0, rfl⟩
  | succ fuel ih =>
    unfold run
    cases hs : c.step? with
    | none => exact ⟨0, rfl⟩
    | some next =>
      obtain ⟨steps, hsteps⟩ := ih next
      refine ⟨steps + 1, ?_⟩
      show (c.step?.getD c).after (List.replicate steps .step) = run fuel next
      rw [hs]
      exact hsteps

/-- A connection whose peer has closed comes to its end. -/
theorem exists_isFinished {c : Connection} (hended : c.codec.inbox.ended = true) :
    ∃ steps, (c.after (List.replicate steps .step)).isFinished = true := by
  obtain ⟨steps, hsteps⟩ := exists_after_eq_run c.work c
  have hwaits : (c.after (List.replicate steps .step)).step? = none := by
    rw [hsteps]
    exact step?_settle c
  exact ⟨steps, isFinished_of_step? (ended_after hended _) hwaits⟩

end Connection
end WebSocket
