import WebSocket.Proofs.Connection.Answer
import WebSocket.Proofs.Connection.Calls
import WebSocket.Proofs.Connection.Shown
import WebSocket.Proofs.Transport.Reading

/-
What becomes of a connection when the server is ordered to stop.  The order comes first: whatever
has arrived before, with or after it, the next step of a connection that awaits a head ends it, and
that of a connection that awaits a frame sends a close frame.  After that the frames that arrive
are passed over, until one of them is a close frame, or they end, or the time is over
(`Connection.isFinished_settle_of_draining`).  The log of an open connection thus takes one of five
forms from the order on (`Connection.Withdrawal`), and of a connection that was not open yet
nothing is ever seen (`Connection.Unnoticed`).
-/
namespace WebSocket

/-- A call that tells of an error or of the end. -/
def Call.IsLast : Call → Prop
  | .error _ _ => True
  | .disconnect _ => True
  | _ => False

namespace Codec

/-! ## All frames, step by step -/

theorem readFrames_of_found {c next : Codec} {frame : Frame}
    (h : c.stepFrame = .done (.ok frame) next) :
    c.readFrames = (frame :: next.readFrames.1, next.readFrames.2) := by
  have hread : c.readFrame = (some (.ok frame), next) := by
    rw [readFrame, read_eq_step, ← stepFrame, h]
  rw [readFrames]
  split <;> rename_i he <;> rw [hread] at he <;> cases he
  rfl

theorem readFrames_of_error {c next : Codec} {e : Error}
    (h : c.stepFrame = .done (.error e) next) : c.readFrames = ([], some e) := by
  have hread : c.readFrame = (some (.error e), next) := by
    rw [readFrame, read_eq_step, ← stepFrame, h]
  rw [readFrames]
  split <;> rename_i he <;> rw [hread] at he <;> cases he
  rfl

theorem readFrames_of_more {c next : Codec} (h : c.stepFrame = .more next) :
    c.readFrames = next.readFrames := by
  have hread : c.readFrame = next.readFrame := by
    obtain ⟨-, chunk, queue, -, rfl⟩ := step_more h
    rw [readFrame, read_eq_step, ← stepFrame, h]
    rfl
  rw [readFrames, readFrames, hread]

theorem readFrames_of_waiting {c : Codec} (h : c.stepFrame = .waiting) :
    c.readFrames = ([], none) := by
  have hread : c.readFrame = (none, c) := by
    rw [readFrame, read_eq_step, ← stepFrame, h]
  rw [readFrames]
  split <;> rename_i he
  · rw [hread] at he
    cases he
  · rw [hread] at he
    cases he
  · rfl

end Codec

namespace Connection

variable {c d next : Connection}

/-! ## Draining -/

/-- What ends the draining: the peer's close frame, an error or the end of what the peer sends, or
the deadline. -/
def DrainEnds (c : Connection) (deadline : Nat) : Prop :=
  (∃ frame ∈ c.codec.readFrames.1, frame.opcode = .close) ∨
    c.codec.readFrames.2 ≠ none ∨ deadline ≤ c.now

theorem DrainStep.drainEnds {deadline : Nat} {verdict : Option Error}
    (h : DrainStep c deadline verdict next) :
    next.phase = .finished ∧ c.DrainEnds deadline ∨
      ∃ codec, next = { c with codec } ∧ (c.DrainEnds deadline ↔ next.DrainEnds deadline) := by
  cases h with
  | closed read close =>
    refine .inl ⟨rfl, .inl ⟨_, ?_, close⟩⟩
    rw [Codec.readFrames_of_found read]
    exact List.mem_cons_self
  | passed read close =>
    refine .inr ⟨_, rfl, ?_⟩
    simp only [DrainEnds, Codec.readFrames_of_found read, List.mem_cons, exists_eq_or_imp, close,
      false_or]
  | failed read =>
    refine .inl ⟨rfl, .inr (.inl ?_)⟩
    rw [Codec.readFrames_of_error read]
    exact Option.some_ne_none _
  | more read =>
    refine .inr ⟨_, rfl, ?_⟩
    simp only [DrainEnds, Codec.readFrames_of_more read]
  | late read due => exact .inl ⟨rfl, .inr (.inr (of_decide_eq_true due))⟩

/-- A connection that drains and waits has not come to the end of that. -/
theorem not_drainEnds_of_step? {deadline : Nat} {verdict : Option Error}
    (hp : c.phase = .draining deadline verdict) (h : c.step? = none) :
    ¬ c.DrainEnds deadline := by
  simp only [step?, hp, stepDrain?] at h
  split at h
  · cases h
  · cases h
  · cases h
  · rename_i hread
    split at h
    · cases h
    · rename_i hdue
      rw [DrainEnds, Codec.readFrames_of_waiting hread]
      rintro (⟨frame, hframe, -⟩ | hnone | htime)
      · cases hframe
      · exact hnone rfl
      · exact hdue (decide_eq_true htime)

theorem run_of_draining {deadline : Nat} {verdict : Option Error} {fuel : Nat}
    (hp : c.phase = .draining deadline verdict) (hfuel : c.work ≤ fuel) :
    (run fuel c).phase = .finished ∧ c.DrainEnds deadline ∨
      (run fuel c).phase = .draining deadline verdict ∧ ¬ c.DrainEnds deadline := by
  induction fuel generalizing c with
  | zero =>
    have hwaits : c.step? = none := step?_run hfuel
    exact .inr ⟨hp, not_drainEnds_of_step? hp hwaits⟩
  | succ fuel ih =>
    unfold run
    cases hs : c.step? with
    | none => exact .inr ⟨hp, not_drainEnds_of_step? hp hs⟩
    | some next =>
      have hless := work_lt_of_step? hs
      have hdrain : DrainStep c deadline verdict next := by
        simp only [step?, hp] at hs
        exact drainStep hs
      rcases hdrain.drainEnds with ⟨hfinished, hends⟩ | ⟨codec, rfl, hends⟩
      · refine .inl ⟨?_, hends⟩
        cases fuel <;> simp only [run, step?, hfinished]
      · rw [hends]
        exact ih hp (by omega)

/-- A connection that drains is over, once it has settled, exactly when something ends that. -/
theorem isFinished_settle_of_draining {deadline : Nat} {verdict : Option Error}
    (hp : c.phase = .draining deadline verdict) :
    c.settle.isFinished = true ↔ c.DrainEnds deadline := by
  rcases run_of_draining hp (Nat.le_refl c.work) with ⟨hphase, hends⟩ | ⟨hphase, hends⟩
  · exact iff_of_true (by simp [settle, isFinished, hphase]) hends
  · exact iff_of_false (by simp [settle, isFinished, hphase]) hends

/-! ## The last effects -/

/-- What a connection does at its end, after any report. -/
def endings (c : Connection) : List Effect :=
  [.enter .closed, .shut] ++ c.permit.toList.map (fun permit => .release permit.ip) ++
    if c.connected then [.call (.disconnect c.client)] else []

theorem effects_finish (c : Connection) (verdict : Option Error) :
    (c.finish verdict).effects = c.effects ++ (reported c.client verdict ++ c.endings) := by
  have hreport : c.report verdict = { c with log := (reported c.client verdict).reverse ++ c.log } := by
    cases verdict with
    | none => rfl
    | some e =>
      by_cases he : e.kind = .peerClosed
      · simp only [report, reported, if_pos he]
        rfl
      · simp only [report, reported, if_neg he]
        rfl
  have hlog : (c.finish verdict).log =
      c.endings.reverse ++ ((reported c.client verdict).reverse ++ c.log) := by
    simp only [finish, hreport, endings, releasePermit, farewell, enter, emit, notify]
    cases c.permit <;> cases c.connected <;> rfl
  simp [effects, hlog]

/-- The close frame that a connection sends when the server stops. -/
def parting : Bytes :=
  (Frame.close (some .goingAway) "Server shutting down").encode

/-- An attempt to send the close frame that has failed: the frame has not been written, or not been
flushed. -/
def IsFailedParting (attempt : List Effect) : Prop :=
  attempt = [.writeFailed parting] ∨ attempt = [.write parting, .flushFailed]

/-- A connection that may send is to send the close frame, and waits for the peer's unless that
fails. -/
theorem goAway_cases (h : c.state = .open) :
    (c.writeFailure = none ∧ c.flushFailure = none ∧
      c.goAway = { c with
        state := .closing
        log := .write parting :: .enter .closing :: c.log
        phase := .draining (c.now + c.config.timeouts.close) none }) ∨
      ∃ attempt failure, IsFailedParting attempt ∧
        c.goAway = finish { c with
          state := .closing
          log := attempt.reverse ++ .enter .closing :: c.log } (some (.ofFailure failure)) := by
  have hcan : c.state.canSend = true := by rw [h]; rfl
  have hparting : (Message.close (some ⟨.goingAway, "Server shutting down"⟩)).toFrame.encode =
      parting := by decide
  unfold goAway closeWith
  rw [if_pos hcan]
  simp only [send, hparting]
  rcases (c.enter .closing).write_cases parting with ⟨hwrites, hflushes, hw⟩ |
    ⟨failure, -, hw⟩ | ⟨failure, -, -, hw⟩
  · simp only [hw]
    exact .inl ⟨hwrites, hflushes, rfl⟩
  · simp only [hw]
    exact .inr ⟨_, failure, .inl rfl, rfl⟩
  · simp only [hw]
    exact .inr ⟨_, failure, .inr rfl, rfl⟩

/-- How far a connection has withdrawn that awaited a frame when the server was ordered to stop:
what it waits for, and what it has done since. -/
inductive Withdrawal (c : Connection) (now : Nat) : Phase → List Effect → Prop
  | ordered : Withdrawal c now c.phase []
  | parted {sent : Nat} (after : c.now ≤ sent) (before : sent ≤ now) :
    Withdrawal c now (.draining (sent + c.config.timeouts.close) none)
      [.enter .closing, .write parting]
  | drained : Withdrawal c now .finished
      ([.enter .closing, .write parting, .enter .closed] ++ c.endings)
  | failed {attempt : List Effect} (failure : IoFailure) (h : IsFailedParting attempt) :
    Withdrawal c now .finished
      (.enter .closing :: attempt ++ (reported c.client (some (.ofFailure failure)) ++ c.endings))

/-- A connection that was open when the server was ordered to stop, and what has become of it. -/
structure Withdraws (c d : Connection) : Prop where
  config : d.config = c.config
  stopping : d.stopping = true
  clock : c.now ≤ d.now
  isOpen : d.phase = c.phase → d.state = .open
  tenure : d.phase ≠ .finished →
    d.client = c.client ∧ d.connected = c.connected ∧ d.permit = c.permit
  withdrawal : ∃ done, d.effects = c.effects ++ done ∧ c.Withdrawal d.now d.phase done

theorem endings_eq_of_tenure
    (h : d.client = c.client ∧ d.connected = c.connected ∧ d.permit = c.permit) :
    d.endings = c.endings := by
  rw [endings, endings, h.1, h.2.1, h.2.2]

theorem Withdrawal.later {now time : Nat} (hnow : now ≤ time) {phase : Phase}
    {done : List Effect} (h : c.Withdrawal now phase done) : c.Withdrawal time phase done := by
  cases h with
  | ordered => exact .ordered
  | parted after before => exact .parted after (Nat.le_trans before hnow)
  | drained => exact .drained
  | failed failure h => exact .failed failure h

theorem withdraws_finish (done : List Effect) (hconfig : d.config = c.config)
    (hstopping : d.stopping = true)
    (hclock : c.now ≤ d.now) (hunfinished : c.phase ≠ .finished)
    (htenure : d.client = c.client ∧ d.connected = c.connected ∧ d.permit = c.permit)
    (heffects : d.effects = c.effects ++ done) {verdict : Option Error}
    (hw : c.Withdrawal d.now .finished (done ++ (reported c.client verdict ++ c.endings))) :
    c.Withdraws (d.finish verdict) := by
  have hg := ground_finish d verdict
  have hnow : (d.finish verdict).now = d.now := congrArg Ground.now hg
  refine ⟨(congrArg Ground.config hg).trans hconfig, (congrArg Ground.stopping hg).trans hstopping,
    hnow ▸ hclock, fun h => absurd h.symm hunfinished, fun h => absurd rfl h, _, ?_, hnow ▸ hw⟩
  rw [effects_finish, heffects, htenure.1, endings_eq_of_tenure htenure, List.append_assoc]

theorem Withdraws.goAway {deadline : Option Nat} (hc : c.phase = .awaitingFrame deadline)
    (h : c.Withdraws d) (hp : d.phase = c.phase) (heffects : d.effects = c.effects) :
    c.Withdraws d.goAway := by
  have hunfinished : c.phase ≠ .finished := by simp [hc]
  have htenure := h.tenure (hp ▸ hunfinished)
  rcases goAway_cases (h.isOpen hp) with ⟨-, -, hnext⟩ | ⟨attempt, failure, hattempt, hnext⟩ <;>
    rw [hnext]
  · refine ⟨h.config, h.stopping, h.clock, fun hphase => ?_, fun _ => htenure,
      [.enter .closing, .write parting], ?_, ?_⟩
    · rw [hc] at hphase
      cases hphase
    · rw [← heffects]
      simp [effects]
    · simp only [h.config]
      exact .parted h.clock (Nat.le_refl _)
  · apply withdraws_finish (.enter .closing :: attempt)
    · exact h.config
    · exact h.stopping
    · exact h.clock
    · exact hunfinished
    · exact htenure
    · rw [← heffects]
      simp [effects]
    · exact .failed failure hattempt

theorem Withdraws.drain {deadline : Nat} (hunfinished : c.phase ≠ .finished) (h : c.Withdraws d)
    (hp : d.phase = .draining deadline none)
    (heffects : d.effects = c.effects ++ [.enter .closing, .write parting])
    (hs : DrainStep d deadline none next) : c.Withdraws next := by
  have htenure := h.tenure (by simp [hp])
  have hstay : ∀ codec : Codec, c.Withdraws { d with codec } := fun _ =>
    ⟨h.config, h.stopping, h.clock, h.isOpen, h.tenure, h.withdrawal⟩
  have hend : ∀ codec : Codec, c.Withdraws (drained { d with codec } none) := by
    intro codec
    apply withdraws_finish [.enter .closing, .write parting, .enter .closed]
    · exact h.config
    · exact h.stopping
    · exact h.clock
    · exact hunfinished
    · exact htenure
    · have hentered : (enter { d with codec } .closed).effects = d.effects ++ [.enter .closed] := by
        simp [effects, enter, emit]
      rw [hentered, heffects, List.append_assoc]
      rfl
    · exact .drained
  cases hs with
  | closed => exact hend _
  | passed => exact hstay _
  | failed => exact hend _
  | more => exact hstay _
  | late => exact hend d.codec

theorem Withdraws.step {deadline : Option Nat} (hc : c.phase = .awaitingFrame deadline)
    (h : c.Withdraws d) (hs : d.step? = some next) : c.Withdraws next := by
  obtain ⟨done, heffects, hw⟩ := h.withdrawal
  generalize hp : d.phase = phase at hw
  cases hw with
  | ordered =>
    rw [List.append_nil] at heffects
    simp only [step?, hp, hc] at hs
    -- the order is looked for before any frame, so whatever has arrived, this is the only step
    cases frameStep hs with
    | stop => exact h.goAway hc hp heffects
    | _ running => exact absurd (h.stopping.symm.trans running) (by decide)
  | parted =>
    simp only [step?, hp] at hs
    exact h.drain (by simp [hc]) hp heffects (drainStep hs)
  | drained => simp [step?, hp] at hs
  | failed => simp [step?, hp] at hs

theorem now_le_move (c : Connection) {m : Move} (hm : m ≠ .step) : c.now ≤ (c.move m).now := by
  cases m with
  | step => exact absurd rfl hm
  | event e =>
    cases e with
    | advance ms => exact Nat.le_add_right ..
    | _ => exact Nat.le_refl _
  | _ => exact Nat.le_refl _

theorem stopping_move (h : c.stopping = true) {m : Move} (hm : m ≠ .step) :
    (c.move m).stopping = true := by
  cases m with
  | step => exact absurd rfl hm
  | event e =>
    cases e with
    | stop => rfl
    | _ => exact h
  | _ => exact h

theorem Withdraws.move (h : c.Withdraws d) {m : Move} (hm : m ≠ .step) :
    c.Withdraws (d.move m) := by
  have hinside := sameInside_move hm d
  have hnow := now_le_move d hm
  obtain ⟨done, heffects, hw⟩ := h.withdrawal
  refine ⟨hinside.config.trans h.config, stopping_move h.stopping hm, Nat.le_trans h.clock hnow,
    fun hphase => ?_, fun hunfinished => ?_, done, ?_, ?_⟩
  · exact hinside.state.trans (h.isOpen (hinside.phase.symm.trans hphase))
  · have htenure := h.tenure (hinside.phase ▸ hunfinished)
    exact ⟨hinside.client.trans htenure.1, hinside.connected.trans htenure.2.1,
      hinside.permit.trans htenure.2.2⟩
  · rw [← heffects, effects, hinside.log, effects]
  · rw [hinside.phase]
    exact hw.later hnow

theorem withdraws_after {deadline : Option Nat} (hc : c.phase = .awaitingFrame deadline)
    (hopen : c.state = .open) (later : List Move) :
    c.Withdraws ((c.apply .stop).after later) := by
  refine after_induction (fun _ _ h hs => h.step hc hs) (fun _ _ h hm => h.move hm) ?_ later
  exact ⟨rfl, rfl, Nat.le_refl _, fun _ => hopen, fun _ => ⟨rfl, rfl, rfl⟩, [],
    (List.append_nil _).symm, .ordered⟩

/-- An effect of leaving that neither the peer nor the application gets to see. -/
def IsRetreat (e : Effect) : Prop :=
  e = .enter .closed ∨ e = .shut ∨ ∃ ip, e = .release ip

theorem isRetreat_of_mem_endings (h : c.connected = false) {e : Effect} (he : e ∈ c.endings) :
    IsRetreat e := by
  rw [endings, h] at he
  simp only [List.mem_append, List.mem_cons, List.not_mem_nil, or_false, List.mem_map,
    Bool.false_eq_true, if_false] at he
  rcases he with (rfl | rfl) | ⟨permit, -, rfl⟩
  · exact .inl rfl
  · exact .inr (.inl rfl)
  · exact .inr (.inr ⟨_, rfl⟩)

/-- A connection that was not open yet when the server was ordered to stop. -/
structure Unnoticed (c : Connection) : Prop where
  stopping : c.stopping = true
  connected : c.connected = false
  phase : (3 ≤ c.phase.rank ∧ c.effects = []) ∨ c.phase = .finished
  effects : ∀ e ∈ c.effects, IsRetreat e

theorem Unnoticed.step (h : c.Unnoticed) (hs : c.step? = some next) : next.Unnoticed := by
  rcases h.phase with ⟨hrank, heffects⟩ | hfinished
  · cases hp : c.phase with
    | accepted =>
      simp only [step?, hp] at hs
      cases hs
      exact ⟨h.stopping, h.connected, .inl ⟨by simp [awaitHead, Phase.rank], heffects⟩, h.effects⟩
    | awaitingHead deadline =>
      simp only [step?, hp] at hs
      cases headStep hs with
      | stop =>
        refine ⟨(congrArg Ground.stopping (ground_finish c none)).trans h.stopping,
          (client_finish c none).2.trans h.connected, .inr rfl, fun e he => ?_⟩
        rw [effects_finish, heffects] at he
        exact isRetreat_of_mem_endings h.connected he
      | _ running => exact absurd (h.stopping.symm.trans running) (by decide)
    | _ => simp [hp, Phase.rank] at hrank
  · simp [step?, hfinished] at hs

theorem Unnoticed.move (h : c.Unnoticed) {m : Move} (hm : m ≠ .step) : (c.move m).Unnoticed := by
  have hinside := sameInside_move hm c
  have heffects : (c.move m).effects = c.effects := by
    rw [Connection.effects, Connection.effects, hinside.log]
  refine ⟨stopping_move h.stopping hm, hinside.connected.trans h.connected, ?_, ?_⟩
  · rw [hinside.phase, heffects]
    exact h.phase
  · rw [heffects]
    exact h.effects

theorem Unnoticed.after (h : c.Unnoticed) (later : List Move) : (c.after later).Unnoticed :=
  after_induction (fun _ _ h hs => h.step hs) (fun _ _ h hm => h.move hm) h later

/-- A connection that was not open yet takes no more than the steps that end it. -/
theorem Unnoticed.isFinished_settle (h : c.Unnoticed) : c.settle.isFinished = true := by
  obtain ⟨steps, hsteps⟩ := exists_after_eq_run c.work c
  have hsettled : c.settle.Unnoticed := by
    have hafter := h.after (List.replicate steps .step)
    rwa [hsteps] at hafter
  have hwaits := step?_settle c
  rcases hsettled.phase with ⟨hrank, -⟩ | hfinished
  -- neither of the phases before opening waits once the order has come
  · exfalso
    cases hp : c.settle.phase with
    | accepted => simp [step?, hp] at hwaits
    | awaitingHead deadline => simp [step?, hp, stepHead?, hsettled.stopping] at hwaits
    | _ => simp [hp, Phase.rank] at hrank
  · simp [isFinished, hfinished]

theorem OnCourse.effects_of_rank (h : c.OnCourse) (hrank : 3 ≤ c.phase.rank) :
    c.effects = [] := by
  obtain ⟨s, hf, hat⟩ := h
  have hsilent : s = .silent := by
    unfold IsAt at hat
    cases hp : c.phase with
    | accepted =>
      simp only [hp] at hat
      exact hat.1
    | awaitingHead deadline =>
      simp only [hp] at hat
      exact hat.1
    | _ => simp [hp, Phase.rank] at hrank
  subst hsilent
  unfold Follows at hf
  generalize hlog : c.log = log at hf
  cases hf with
  | start => simp [effects, hlog]
  | next _ hd => cases hd

theorem unnoticed_after (h : c.OnCourse) (hrank : 3 ≤ c.phase.rank) (later : List Move) :
    ((c.apply .stop).after later).Unnoticed := by
  have heffects := h.effects_of_rank hrank
  have hstart : (c.apply .stop).Unnoticed := by
    refine ⟨rfl, h.connected_of_rank hrank, .inl ⟨hrank, heffects⟩, fun e he => ?_⟩
    have hnone : e ∈ c.effects := he
    rw [heffects] at hnone
    cases hnone
  exact hstart.after later

/-! ## Calls -/

/-- A connection has come to another and has called nothing but for errors and the end. -/
def Quiets (c d : Connection) : Prop :=
  ∃ done, d.effects = c.effects ++ done ∧ ∀ call ∈ callsOf done, call.IsLast

theorem Quiets.refl (c : Connection) : c.Quiets c :=
  ⟨[], (List.append_nil _).symm, List.forall_mem_nil _⟩

theorem Quiets.trans (h : c.Quiets d) (h' : d.Quiets next) : c.Quiets next := by
  obtain ⟨done, heffects, hcalls⟩ := h
  obtain ⟨done', heffects', hcalls'⟩ := h'
  refine ⟨done ++ done', by rw [heffects', heffects, List.append_assoc], fun call hcall => ?_⟩
  rw [callsOf_append] at hcall
  exact (List.mem_append.mp hcall).elim (hcalls call) (hcalls' call)

theorem callsOf_endings (c : Connection) :
    callsOf c.endings = if c.connected then [.disconnect c.client] else [] := by
  unfold endings
  cases c.permit <;> cases c.connected <;> rfl

theorem callsOf_reported (client : String) (verdict : Option Error) :
    callsOf (reported client verdict) = [] ∨
      ∃ e, verdict = some e ∧ e.kind ≠ .peerClosed ∧
        callsOf (reported client verdict) = [.error client e] := by
  cases verdict with
  | none => exact .inl rfl
  | some e =>
    by_cases he : e.kind = .peerClosed
    · exact .inl (by simp only [reported, if_pos he]; rfl)
    · exact .inr ⟨e, rfl, he, by simp only [reported, if_neg he]; rfl⟩

theorem quiets_finish (c : Connection) (verdict : Option Error) : c.Quiets (c.finish verdict) := by
  refine ⟨_, effects_finish c verdict, fun call hcall => ?_⟩
  rw [callsOf_append] at hcall
  rcases List.mem_append.mp hcall with hreport | hend
  · rcases callsOf_reported c.client verdict with hnone | ⟨e, -, -, hsome⟩
    · rw [hnone] at hreport
      cases hreport
    · rw [hsome] at hreport
      rw [List.mem_singleton.mp hreport]
      trivial
  · rw [callsOf_endings] at hend
    split at hend
    · rw [List.mem_singleton.mp hend]
      trivial
    · cases hend

theorem quiets_of_log (new : List Effect) (h : d.log = new ++ c.log)
    (hnew : callsOf new.reverse = []) : c.Quiets d := by
  refine ⟨new.reverse, by rw [effects, effects, h, List.reverse_append], fun call hcall => ?_⟩
  rw [hnew] at hcall
  cases hcall

theorem quiets_goAway (h : c.state = .open) : c.Quiets c.goAway := by
  rcases goAway_cases h with ⟨-, -, hnext⟩ | ⟨attempt, failure, hattempt, hnext⟩ <;> rw [hnext]
  · have hlog : callsOf [Effect.enter .closing, .write parting] = [] := rfl
    exact quiets_of_log [.write parting, .enter .closing] rfl hlog
  · refine Quiets.trans ?_ (quiets_finish _ _)
    rcases hattempt with rfl | rfl
    · exact quiets_of_log [.writeFailed parting, .enter .closing] rfl rfl
    · exact quiets_of_log [.flushFailed, .write parting, .enter .closing] rfl rfl

/-- After the order to stop no step calls the application but for an error or the end. -/
theorem OnCourse.quiets_of_step? (h : c.OnCourse) (hstopping : c.stopping = true)
    (hs : c.step? = some next) : c.Quiets next := by
  have hdrained : ∀ (codec : Codec) (verdict : Option Error),
      c.Quiets (drained { c with codec } verdict) := fun codec verdict =>
    (quiets_of_log [.enter .closed] rfl rfl).trans (quiets_finish _ verdict)
  cases hp : c.phase with
  | accepted =>
    simp only [step?, hp] at hs
    cases hs
    exact .refl c
  | awaitingHead deadline =>
    simp only [step?, hp] at hs
    cases headStep hs with
    | stop => exact quiets_finish c none
    | _ running => exact absurd (hstopping.symm.trans running) (by decide)
  | awaitingFrame deadline =>
    simp only [step?, hp] at hs
    cases frameStep hs with
    | stop => exact quiets_goAway (h.state_of_awaitingFrame hp)
    | _ running => exact absurd (hstopping.symm.trans running) (by decide)
  | draining deadline verdict =>
    simp only [step?, hp] at hs
    cases drainStep hs with
    | closed => exact hdrained _ verdict
    | passed => exact .refl c
    | failed => exact hdrained _ verdict
    | more => exact .refl c
    | late => exact hdrained c.codec verdict
  | finished => simp [step?, hp] at hs

theorem OnCourse.quiets_after (h : c.OnCourse) (later : List Move) :
    c.Quiets ((c.apply .stop).after later) := by
  have hstart : (c.apply .stop).OnCourse := h.of_sameInside (sameInside_apply c .stop)
  have hinv := after_induction
    (P := fun d => d.OnCourse ∧ d.stopping = true ∧ c.Quiets d) (fun d next hd hs => ?_)
    (fun d m hd hm => ?_) ⟨hstart, rfl, .refl c⟩ later
  · exact hinv.2.2
  · obtain ⟨hcourse, hstopping, hquiets⟩ := hd
    obtain ⟨codec, -, hg⟩ := exists_ground_of_step? hs
    exact ⟨hcourse.step hs, (congrArg Ground.stopping hg).trans hstopping,
      hquiets.trans (hcourse.quiets_of_step? hstopping hs)⟩
  · obtain ⟨hcourse, hstopping, hquiets⟩ := hd
    have hinside := sameInside_move hm d
    exact ⟨hcourse.of_sameInside hinside, stopping_move hstopping hm,
      hquiets.trans (quiets_of_log [] hinside.log rfl)⟩

/-! ## The order to stop -/

/-- What a connection that awaited a frame at `c`, when the server was ordered to stop, has done by
`d`. -/
structure TakesLeave (c d : Connection) (done : List Effect) : Prop where
  /-- It drains or is over, unless its next step is still to come. -/
  phase : d.phase = c.phase ∨ (∃ deadline verdict, d.phase = .draining deadline verdict) ∨
    d.phase = .finished
  /-- That step is there to be taken, and nothing is done before it. -/
  turn : d.phase = c.phase → done = [] ∧ ∃ next, d.step? = some next ∧ next.phase ≠ c.phase
  /-- The step writes a close frame and no more is written, unless the write fails. -/
  writes : d.phase ≠ c.phase → writesOf done = [parting] ∨
    writesOf done = [] ∧ .writeFailed parting ∈ done
  /-- The draining goes on in silence for as long as nothing ends it. -/
  drains : ∀ deadline verdict, d.phase = .draining deadline verdict → callsOf done = [] ∧
    (∃ sent, c.now ≤ sent ∧ sent ≤ d.now ∧ deadline = sent + c.config.timeouts.close) ∧
    (d.settle.isFinished = true ↔ d.DrainEnds deadline)
  /-- At the end the application is told of it once, and of an error only if the close frame could
  not be sent, because of anything but that the peer had gone. -/
  ends : d.phase = .finished → ∃ errors, callsOf done = errors ++ [.disconnect c.client] ∧
    (errors = [] ∨ ∃ failure : IoFailure, errors = [.error c.client (.ofFailure failure)] ∧
      (Error.ofFailure failure).kind ≠ .peerClosed ∧
      (.writeFailed parting ∈ done ∨ .flushFailed ∈ done))

theorem writesOf_endings (c : Connection) : writesOf c.endings = [] := by
  unfold endings
  cases c.permit <;> cases c.connected <;> rfl

theorem writesOf_reported (client : String) (verdict : Option Error) :
    writesOf (reported client verdict) = [] := by
  cases verdict with
  | none => rfl
  | some e =>
    by_cases he : e.kind = .peerClosed
    · simp only [reported, if_pos he]
      rfl
    · simp only [reported, if_neg he]
      rfl

theorem takesLeave_after {deadline : Option Nat} (h : c.OnCourse)
    (hc : c.phase = .awaitingFrame deadline) (later : List Move) {done : List Effect}
    (heffects : ((c.apply .stop).after later).effects = c.effects ++ done) :
    c.TakesLeave ((c.apply .stop).after later) done := by
  obtain ⟨s, -, hat⟩ := h
  simp only [IsAt, hc] at hat
  obtain ⟨-, hopen, hconnected⟩ := hat
  have hwithdraws := withdraws_after hc hopen later
  generalize (c.apply .stop).after later = d at *
  obtain ⟨made, hmade, hw⟩ := hwithdraws.withdrawal
  -- the log only grows, so what has been done since the order is determined by it
  obtain rfl : done = made := List.append_cancel_left (heffects.symm.trans hmade)
  have hend : callsOf c.endings = [.disconnect c.client] := by
    rw [callsOf_endings, if_pos hconnected]
  generalize hp : d.phase = phase at hw
  cases hw with
  | ordered =>
    refine ⟨.inl hp, fun _ => ⟨rfl, ?_⟩, fun hne => absurd hp hne, fun deadline verdict hdrain => ?_,
      fun hfinished => ?_⟩
    · refine ⟨d.goAway, by simp [step?, hp, hc, stepFrame?, hwithdraws.stopping], fun hsame => ?_⟩
      have hrank := rank_goAway_le d
      rw [hsame, hc] at hrank
      exact absurd hrank (by simp [Phase.rank])
    · simp [hp, hc] at hdrain
    · simp [hp, hc] at hfinished
  | @parted sent after before =>
    refine ⟨.inr (.inl ⟨_, _, hp⟩), fun hsame => ?_, fun _ => .inl rfl,
      fun deadline verdict hdrain => ?_, fun hfinished => ?_⟩
    · simp [hp, hc] at hsame
    · rw [hp] at hdrain
      cases hdrain
      exact ⟨rfl, ⟨sent, after, before, rfl⟩, isFinished_settle_of_draining hp⟩
    · simp [hp] at hfinished
  | drained =>
    refine ⟨.inr (.inr hp), fun hsame => ?_, fun _ => .inl ?_, fun deadline verdict hdrain => ?_,
      fun _ => ⟨[], ?_, .inl rfl⟩⟩
    · simp [hp, hc] at hsame
    · rw [writesOf_append, writesOf_endings]
      rfl
    · simp [hp] at hdrain
    · rw [callsOf_append, hend]
      rfl
  | @failed attempt failure hattempt =>
    refine ⟨.inr (.inr hp), fun hsame => ?_, fun _ => ?_, fun deadline verdict hdrain => ?_,
      fun _ => ⟨callsOf (reported c.client (some (.ofFailure failure))), ?_, ?_⟩⟩
    · simp [hp, hc] at hsame
    · rw [writesOf_append, writesOf_append, writesOf_reported, writesOf_endings]
      rcases hattempt with rfl | rfl
      · exact .inr ⟨rfl, by simp⟩
      · exact .inl rfl
    · simp [hp] at hdrain
    · have hquiet : callsOf (.enter .closing :: attempt) = [] := by
        rcases hattempt with rfl | rfl <;> rfl
      rw [callsOf_append, callsOf_append, hquiet, hend, List.nil_append]
    · rcases callsOf_reported c.client (some (.ofFailure failure)) with hnone | ⟨e, he, hkind, hsome⟩
      · exact .inl hnone
      · cases he
        refine .inr ⟨failure, hsome, hkind, ?_⟩
        rcases hattempt with rfl | rfl
        · exact .inl (by simp)
        · exact .inr (by simp)

/-- From the order to stop on the application is told of errors and of the end only.  A connection
that was not open yet ends with its next steps, and in all of its run nothing is seen of it.  A
connection that was open takes its leave. -/
theorem done_after_stop (config : Config) (application : Application) (peer : Address)
    (admission : Admission.Controller) (permit : Option Admission.Controller.Permit)
    (now admissionTime : Nat) (before later : List Move) :
    let c := (new config application peer admission permit now admissionTime).after before
    let d := (c.apply .stop).after later
    ∃ done, d.effects = c.effects ++ done ∧ (∀ call ∈ callsOf done, call.IsLast) ∧
      ((c.phase = .accepted ∨ ∃ deadline, c.phase = .awaitingHead deadline) →
        (∀ e ∈ d.effects, IsRetreat e) ∧ d.settle.isFinished = true) ∧
      ∀ deadline, c.phase = .awaitingFrame deadline → c.TakesLeave d done := by
  intro c d
  have hcourse : c.OnCourse := (onCourse_new ..).after before
  obtain ⟨done, heffects, hcalls⟩ := hcourse.quiets_after later
  refine ⟨done, heffects, hcalls, fun hphase => ?_,
    fun deadline hphase => takesLeave_after hcourse hphase later heffects⟩
  have hrank : 3 ≤ c.phase.rank := by
    rcases hphase with hp | ⟨deadline, hp⟩ <;> simp [hp, Phase.rank]
  have hunnoticed := unnoticed_after hcourse hrank later
  exact ⟨hunnoticed.effects, hunnoticed.isFinished_settle⟩

/-- The moves by which a client that greets is let in. -/
def greetingMoves : List Move :=
  [.step, .event (.deliver [Opening.greeting.head]), .step, .step]

/-- The connection of a client that has been let in. -/
def welcomed : Connection :=
  (new .default .silent (.v4 ⟨127, 0, 0, 1⟩) (.ofConfig .default) none 0 0).after greetingMoves

/-- The same connection when a ping and a close frame have arrived with the order to stop. -/
def recalled : Connection :=
  (welcomed.apply .stop).after
    [.event (.deliver [Opening.greeting.rest]), .step, .step, .step, .step]

/-- The ping and the close frame are not answered before the connection takes its leave. -/
theorem done_after_stop_of_greeting :
    welcomed.phase = .awaitingFrame none ∧ recalled.phase = .finished ∧
      ∃ done, recalled.effects = welcomed.effects ++ done ∧
        welcomed.TakesLeave recalled done := by
  have hrun : welcomed.phase = .awaitingFrame none ∧ recalled.phase = .finished := by
    decide +kernel
  obtain ⟨done, heffects, -, -, hleaves⟩ := done_after_stop .default .silent
    (.v4 ⟨127, 0, 0, 1⟩) (.ofConfig .default) none 0 0 greetingMoves
    [.event (.deliver [Opening.greeting.rest]), .step, .step, .step, .step]
  exact ⟨hrun.1, hrun.2, done, heffects, hleaves none hrun.1⟩

end Connection
end WebSocket
