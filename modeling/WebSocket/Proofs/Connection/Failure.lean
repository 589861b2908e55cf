import WebSocket.Proofs.Connection.Idleness

/-
What the application is told of a failure.  An open connection fails when a frame cannot be read,
when a frame carries no message, or when none has come in time (`Connection.failure?`).  The step
that finds the failure ends the connection or leaves it draining, and the error to be reported is
settled with that step (`Connection.Dooms`): nothing that happens later changes it or adds another
(`Connection.Dooms.after`).  It is the error that was found, but for a timeout, which gives way to
the error of sending the close frame, if that cannot be sent (`Connection.verdict`).
-/
namespace WebSocket
namespace Connection

/-- The error that ends an open connection with its next step, if there is one. -/
def failure? (c : Connection) : Option Error :=
  match c.phase with
  | .awaitingFrame deadline =>
    if c.stopping then none
    else
      match c.codec.stepFrame with
      | .done (.ok frame) _ =>
        match Message.ofFrame frame with
        | .ok _ => none
        | .error e => some e
      | .done (.error e) _ => some e
      | .more _ => none
      | .waiting => if c.isDue deadline then some c.idleTimeout else none
  | _ => none

/-- How sending fails, if it does. -/
def sendError? (c : Connection) : Option Error :=
  (c.writeFailure.or c.flushFailure).map .ofFailure

/-- The error with which a connection ends after a failure. -/
def verdict (c : Connection) (e : Error) : Error :=
  if e.isTimeout then c.sendError?.getD e else e

/-- The errors that effects told the application of, each with its client. -/
def errorsOf (effects : List Effect) : List (String × Error) :=
  effects.filterMap fun
    | .call (.error client e) => some (client, e)
    | _ => none

variable {c d next : Connection}

theorem phase_of_failure? {e : Error} (h : c.failure? = some e) :
    ∃ deadline, c.phase = .awaitingFrame deadline := by
  unfold failure? at h
  split at h
  · exact ⟨_, ‹_›⟩
  · cases h

theorem errorsOf_append (earlier later : List Effect) :
    errorsOf (earlier ++ later) = errorsOf earlier ++ errorsOf later :=
  List.filterMap_append

theorem errorsOf_endings (c : Connection) : errorsOf c.endings = [] := by
  unfold endings
  cases c.permit <;> cases c.connected <;> rfl

theorem errorsOf_reported (client : String) (e : Error) :
    errorsOf (reported client (some e)) =
      if e.kind = .peerClosed then [] else [(client, e)] := by
  by_cases he : e.kind = .peerClosed
  · simp only [reported, if_pos he]
    rfl
  · simp only [reported, if_neg he]
    rfl

/-! ## The close frame -/

theorem write_snd (c : Connection) (data : Bytes) : (c.write data).2 = c.sendError? := by
  unfold sendError?
  rcases c.write_cases data with ⟨hwrites, hflushes, hw⟩ | ⟨failure, hwrites, hw⟩ |
    ⟨failure, hwrites, hflushes, hw⟩
  · rw [hw, hwrites, hflushes]
    rfl
  · rw [hw, hwrites]
    rfl
  · rw [hw, hwrites, hflushes]
    rfl

/-! ## The end of a connection that has failed -/

/-- A connection has come to another without telling of an error. -/
structure Conceals (c d : Connection) : Prop where
  keeps : c.Keeps d
  errors : errorsOf d.effects = errorsOf c.effects

theorem Conceals.trans (h : c.Conceals d) (h' : d.Conceals next) : c.Conceals next :=
  ⟨h.keeps.trans h'.keeps, h'.errors.trans h.errors⟩

theorem conceals_of_log (new : List Effect) (hkeeps : c.Keeps d) (h : d.log = new ++ c.log)
    (hnew : errorsOf new.reverse = []) : c.Conceals d := by
  refine ⟨hkeeps, ?_⟩
  rw [effects, effects, h, List.reverse_append, errorsOf_append, hnew, List.append_nil]

theorem conceals_withCodec (c : Connection) (codec : Codec) : c.Conceals { c with codec } :=
  ⟨keeps_withCodec c codec, rfl⟩

theorem conceals_enter (c : Connection) (s : ConnectionState) : c.Conceals (c.enter s) :=
  conceals_of_log [.enter s] (keeps_enter c s) rfl rfl

theorem conceals_write (c : Connection) (data : Bytes) : c.Conceals (c.write data).1 := by
  have hkeeps := keeps_write c data
  rcases c.write_cases data with ⟨-, -, hw⟩ | ⟨failure, -, hw⟩ | ⟨failure, -, -, hw⟩ <;>
    rw [hw] at hkeeps ⊢
  · exact conceals_of_log [.write data] hkeeps rfl rfl
  · exact conceals_of_log [.writeFailed data] hkeeps rfl rfl
  · exact conceals_of_log [.flushFailed, .write data] hkeeps rfl rfl

theorem errorsOf_finish (c : Connection) (verdict : Option Error) :
    errorsOf (c.finish verdict).effects =
      errorsOf c.effects ++ errorsOf (reported c.client verdict) := by
  rw [effects_finish, errorsOf_append, errorsOf_append, errorsOf_endings, List.append_nil]

/-- A step has settled with which error a connection ends, and has not told of it yet, or with its
end. -/
inductive Dooms (c : Connection) (verdict : Option Error) : Connection → Prop
  | drains {next : Connection} (conceals : c.Conceals next)
    (phase : next.phase = .draining (c.now + c.config.timeouts.close) verdict) :
    Dooms c verdict next
  | ends {last : Connection} (conceals : c.Conceals last) : Dooms c verdict (last.finish verdict)

theorem Dooms.of_withCodec {codec : Codec} {verdict : Option Error}
    (h : Dooms { c with codec } verdict next) : c.Dooms verdict next := by
  cases h with
  | drains conceals phase => exact .drains ((conceals_withCodec c codec).trans conceals) phase
  | ends conceals => exact .ends ((conceals_withCodec c codec).trans conceals)

theorem dooms_finish (c : Connection) (verdict : Option Error) :
    c.Dooms verdict (c.finish verdict) :=
  .ends ⟨.refl c, rfl⟩

/-- If the close frame cannot be sent, that may change the error with which a connection ends. -/
theorem dooms_closeWith (hopen : c.state = .open) (code : CloseCode) (reason : String)
    (verdict : Option Error) (onFailure : Error → Option Error) :
    c.Dooms (c.sendError?.elim verdict onFailure) (c.closeWith code reason verdict onFailure) := by
  let frame := (Message.close (some ⟨code, reason⟩)).toFrame
  have hcan : c.state.canSend = true := by rw [hopen]; rfl
  have hconceals : c.Conceals ((c.enter .closing).send frame).1 :=
    (conceals_enter c .closing).trans (conceals_write _ _)
  have hground : ((c.enter .closing).send frame).1.ground = c.ground := ground_send _ _
  have herror : ((c.enter .closing).send frame).2 = c.sendError? := write_snd _ _
  rw [← herror, closeWith, if_pos hcan]
  split <;> rename_i hsend <;> rw [hsend] at hconceals hground ⊢
  · exact .ends hconceals
  · rename_i sent
    -- sending has changed neither the clock nor the limit, so the wait counts from the step
    have hnow : sent.now = c.now := congrArg Ground.now hground
    have hconfig : sent.config = c.config := congrArg Ground.config hground
    have hdrains : sent.Conceals { sent with
        phase := .draining (sent.now + sent.config.timeouts.close) verdict } :=
      ⟨keeps_withPhase _ _, rfl⟩
    refine .drains (hconceals.trans hdrains) ?_
    show Phase.draining (sent.now + sent.config.timeouts.close) verdict =
      .draining (c.now + c.config.timeouts.close) verdict
    rw [hnow, hconfig]

theorem dooms_fail (hopen : c.state = .open) (e : Error) : c.Dooms (some e) (c.fail e) := by
  unfold fail
  split
  · rename_i code _
    have hclose := dooms_closeWith hopen code "" (some e) fun _ => some e
    cases hsend : c.sendError? <;> rw [hsend] at hclose <;> exact hclose
  · exact dooms_finish c _

theorem dooms_expire (hopen : c.state = .open) (e : Error) :
    c.Dooms (some (c.sendError?.getD e)) (c.expire e) := by
  have hclose := dooms_closeWith hopen .goingAway "Idle timeout" (some e) some
  cases hsend : c.sendError? <;> rw [hsend] at hclose <;> exact hclose

theorem dooms_answerBadClose (c : Connection) (e : Error) :
    c.Dooms (some e) (c.answerBadClose e) :=
  .ends (((conceals_enter c .closing).trans (conceals_write _ _)).trans (conceals_enter _ .closed))

theorem verdict_of_isTimeout {e : Error} (h : e.isTimeout = true) :
    c.verdict e = c.sendError?.getD e :=
  if_pos h

theorem verdict_of_not_isTimeout {e : Error} (h : e.isTimeout = false) : c.verdict e = e :=
  if_neg (by simp [h])

theorem dooms_dispatch (hopen : c.state = .open) {frame : Frame} {e : Error}
    (h : Message.ofFrame frame = .error e) : c.Dooms (some (c.verdict e)) (c.dispatch frame) := by
  rw [verdict_of_not_isTimeout (Message.isFault_of_ofFrame h).kind_ne.2]
  simp only [dispatch, h]
  split
  · exact dooms_answerBadClose c e
  · exact dooms_fail hopen e

theorem dooms_of_error (hopen : c.state = .open) (e : Error) :
    c.Dooms (some (c.verdict e)) (if e.isTimeout then c.expire e else c.fail e) := by
  by_cases htimeout : e.isTimeout = true
  · rw [if_pos htimeout, verdict_of_isTimeout htimeout]
    exact dooms_expire hopen e
  · rw [if_neg htimeout, verdict_of_not_isTimeout (by simpa using htimeout)]
    exact dooms_fail hopen e

/-- The step that finds a failure settles with which error the connection ends. -/
theorem exists_dooms_of_failure? (hopen : c.state = .open) {e : Error}
    (h : c.failure? = some e) :
    ∃ next, c.step? = some next ∧ c.Dooms (some (c.verdict e)) next := by
  unfold failure? at h
  split at h
  · rename_i deadline hp
    have hstep : c.step? = c.stepFrame? deadline := by simp only [step?, hp]
    by_cases hstopping : c.stopping = true
    · rw [if_pos hstopping] at h
      cases h
    · rw [if_neg hstopping] at h
      rw [hstep, stepFrame?, if_neg hstopping]
      cases hread : c.codec.stepFrame with
      | done result codec =>
        have hopen' : Connection.state { c with codec } = .open := hopen
        rw [hread] at h
        cases result with
        | ok frame =>
          simp only at h
          cases hmessage : Message.ofFrame frame with
          | ok message =>
            rw [hmessage] at h
            cases h
          | error fault =>
            rw [hmessage] at h
            cases h
            exact ⟨_, rfl, (dooms_dispatch hopen' hmessage).of_withCodec⟩
        | error fault =>
          cases h
          exact ⟨_, rfl, (dooms_of_error hopen' e).of_withCodec⟩
      | more codec =>
        rw [hread] at h
        cases h
      | waiting =>
        rw [hread] at h
        simp only at h ⊢
        split at h <;> cases h
        rename_i hdue
        exact ⟨_, if_pos hdue, dooms_of_error hopen c.idleTimeout⟩
  · cases h

/-! ## Whatever happens later -/

/-- A connection that drains has done nothing since, or has ended with its verdict. -/
def Drains (c : Connection) (deadline : Nat) (verdict : Option Error) (d : Connection) : Prop :=
  (d.phase = .draining deadline verdict ∧ d.effects = c.effects ∧ d.client = c.client ∧
    d.connected = c.connected ∧ d.permit = c.permit) ∨
  (d.phase = .finished ∧
    d.effects = c.effects ++ .enter .closed :: (reported c.client verdict ++ c.endings))

theorem Drains.step {deadline : Nat} {verdict : Option Error} (h : c.Drains deadline verdict d)
    (hs : d.step? = some next) : c.Drains deadline verdict next := by
  rcases h with ⟨hp, heffects, htenure⟩ | ⟨hp, -⟩
  · have hstay : ∀ codec : Codec, c.Drains deadline verdict { d with codec } := fun _ =>
      .inl ⟨hp, heffects, htenure⟩
    have hend : ∀ codec : Codec, c.Drains deadline verdict (drained { d with codec } verdict) := by
      intro codec
      have hclient : (enter { d with codec } .closed).client = c.client := htenure.1
      have hentered : (enter { d with codec } .closed).effects = d.effects ++ [.enter .closed] := by
        simp [effects, enter, emit]
      have hendings : (enter { d with codec } .closed).endings = c.endings :=
        endings_eq_of_tenure htenure
      refine .inr ⟨rfl, ?_⟩
      rw [drained, effects_finish, hentered, heffects, hclient, hendings, List.append_assoc]
      rfl
    simp only [step?, hp] at hs
    cases drainStep hs with
    | closed => exact hend _
    | passed => exact hstay _
    | failed => exact hend _
    | more => exact hstay _
    | late => exact hend d.codec
  · simp [step?, hp] at hs

theorem drains_after {deadline : Nat} {verdict : Option Error}
    (hp : c.phase = .draining deadline verdict) (moves : List Move) :
    c.Drains deadline verdict (c.after moves) := by
  refine after_induction (fun _ _ h hs => h.step hs) (fun d m h hm => ?_)
    (.inl ⟨hp, rfl, rfl, rfl, rfl⟩) moves
  have hinside := sameInside_move hm d
  have heffects : (d.move m).effects = d.effects := by rw [effects, hinside.log, effects]
  unfold Drains at h ⊢
  rw [hinside.phase, heffects, hinside.client, hinside.connected, hinside.permit]
  exact h

/-- Once the error is settled, the application is told of it at the end, and of no other. -/
theorem Dooms.after {e : Error} (h : c.Dooms (some e) next) (later : List Move) :
    ((next.after later).phase = .draining (c.now + c.config.timeouts.close) (some e) ∧
      errorsOf (next.after later).effects = errorsOf c.effects) ∨
    ((next.after later).phase = .finished ∧ errorsOf (next.after later).effects =
      errorsOf c.effects ++ errorsOf (reported c.client (some e))) := by
  cases h with
  | drains conceals phase =>
    rcases drains_after phase later with ⟨hp, heffects, -⟩ | ⟨hp, heffects⟩
    · exact .inl ⟨hp, by rw [heffects, conceals.errors]⟩
    · refine .inr ⟨hp, ?_⟩
      have hclosed : errorsOf [.enter .closed] = [] := rfl
      rw [heffects, ← List.singleton_append, errorsOf_append, errorsOf_append, errorsOf_append,
        hclosed, errorsOf_endings, conceals.errors, conceals.keeps.client, List.nil_append,
        List.append_nil]
  | @ends last conceals =>
    obtain ⟨hp, hlog⟩ := log_after_of_finished (phase_finish last (some e)) later
    refine .inr ⟨hp, ?_⟩
    rw [effects, hlog, ← effects, errorsOf_finish, conceals.errors, conceals.keeps.client]

/-! ## Runs -/

theorem errorsOf_eq_filterMap (effects : List Effect) :
    errorsOf effects = (callsOf effects).filterMap fun
      | .error client e => some (client, e)
      | _ => none := by
  induction effects with
  | nil => rfl
  | cons e effects ih =>
    rw [← List.singleton_append, errorsOf_append, callsOf_append, List.filterMap_append, ← ih]
    congr 1
    cases e with
    | call call => cases call <;> rfl
    | _ => rfl

/-- While frames are awaited the application has been told of messages only. -/
theorem OnCourse.errorsOf_of_awaitingFrame (h : c.OnCourse) {deadline : Option Nat}
    (hp : c.phase = .awaitingFrame deadline) : errorsOf c.effects = [] := by
  obtain ⟨s, hf, hat⟩ := h
  simp only [IsAt, hp] at hat
  obtain ⟨rfl, -, -⟩ := hat
  obtain ⟨messages, hcalls, hmessages⟩ : Stage.Greeted (callsOf c.effects) (some c.client) :=
    Stage.Course.told hf
  rw [errorsOf_eq_filterMap, hcalls, List.filterMap_eq_nil_iff]
  intro call hcall
  rcases List.mem_cons.mp hcall with rfl | hmessage
  · rfl
  · have hbrings := hmessages call hmessage
    cases call with
    | message => rfl
    | binary => rfl
    | _ => exact absurd hbrings id

theorem settle_of_finished (h : c.phase = .finished) : c.settle = c := by
  have hstep : c.step? = none := by simp only [step?, h]
  unfold settle
  cases c.work with
  | zero => rfl
  | succ fuel => simp only [run, hstep]

/-- The application is told of a failure of an open connection once, when the connection has ended,
which it does within the time for closing.  It is told of the error that was found, but for a
timeout, instead of which it is told of the error of sending the close frame, if that cannot be sent;
and it is told of no error that says that the peer has gone. -/
theorem errors_of_failure (config : Config) (application : Application) (peer : Address)
    (admission : Admission.Controller) (permit : Option Admission.Controller.Permit)
    (now admissionTime : Nat) (before later : List Move) {e : Error} :
    let c := (new config application peer admission permit now admissionTime).after before
    let d := c.advance.after later
    c.failure? = some e →
      errorsOf c.effects = [] ∧
        (d.isFinished = false → errorsOf d.effects = []) ∧
        (d.isFinished = true → errorsOf d.effects =
          if (c.verdict e).kind = .peerClosed then [] else [(c.client, c.verdict e)]) ∧
        (c.now + config.timeouts.close ≤ d.now → d.settle.isFinished = true) := by
  intro c d hfailure
  have hcourse : c.OnCourse := (onCourse_new ..).after before
  have hconfig : c.config = config := (origin_after _ before).1
  obtain ⟨deadline, hp⟩ := phase_of_failure? hfailure
  have hnone := hcourse.errorsOf_of_awaitingFrame hp
  obtain ⟨next, hs, hdooms⟩ :=
    exists_dooms_of_failure? (hcourse.state_of_awaitingFrame hp) hfailure
  have hnext : c.advance = next := by rw [advance, hs]; rfl
  have hafter := hdooms.after later
  rw [← hnext, hnone, hconfig] at hafter
  refine ⟨hnone, ?_⟩
  rcases hafter with ⟨hphase, herrors⟩ | ⟨hphase, herrors⟩
  · have hunfinished : d.isFinished = false := by
      rw [isFinished, hphase]
      rfl
    refine ⟨fun _ => herrors, fun hfinished => ?_, fun htime => ?_⟩
    · rw [hunfinished] at hfinished
      cases hfinished
    · exact (isFinished_settle_of_draining hphase).mpr (.inr (.inr htime))
  · have hfinished : d.isFinished = true := by
      rw [isFinished, hphase]
      rfl
    refine ⟨fun hunfinished => ?_, fun _ => ?_, fun _ => ?_⟩
    · rw [hfinished] at hunfinished
      cases hunfinished
    · rw [herrors, errorsOf_reported]
      rfl
    · rw [settle_of_finished hphase]
      exact hfinished

/-- An unmasked frame is reported as such, although no close frame can be sent. -/
theorem errors_of_failure_unmasked :
    let o := Opening.hasty
    let before := o.arrival ++
      [.writes (some ⟨.other, "no route", none⟩), .event (.deliver [[0x81, 0x00]]), .step]
    let c := (new o.config o.application o.peer (.ofConfig o.config) none 0 0).after before
    c.failure? = some .unmaskedClientFrame ∧ (c.advance.after []).isFinished = true ∧
      errorsOf (c.advance.after []).effects = [(o.client, .unmaskedClientFrame)] := by
  intro o before c
  have hc : c = (o.entered (.ofConfig o.config) 0 0).after
      [.writes (some ⟨.other, "no route", none⟩), .event (.deliver [[0x81, 0x00]]), .step] := by
    show (new o.config o.application o.peer (.ofConfig o.config) none 0 0).after before = _
    rw [after_append, o.after_arrival]
  have hrun : c.failure? = some .unmaskedClientFrame ∧
      (c.advance.after []).isFinished = true := by
    rw [hc]
    decide +kernel
  have hclient : c.client = o.client := by
    rw [hc]
    rfl
  have herrors : (c.advance.after []).isFinished = true →
      errorsOf (c.advance.after []).effects =
        if (c.verdict .unmaskedClientFrame).kind = .peerClosed then []
        else [(c.client, c.verdict .unmaskedClientFrame)] :=
    (errors_of_failure o.config o.application o.peer (.ofConfig o.config) none 0 0 before []
      hrun.1).2.2.1
  rw [verdict_of_not_isTimeout rfl, hclient] at herrors
  exact ⟨hrun.1, hrun.2, herrors hrun.2⟩

/-- An idle connection to which the close frame cannot be sent is not reported as idle. -/
theorem not_forall_errors_of_failure :
    ¬ ∀ (config : Config) (application : Application) (peer : Address) (admission : Admission.Controller)
      (permit : Option Admission.Controller.Permit) (now admissionTime : Nat)
      (before later : List Move) (e : Error),
      let c := (new config application peer admission permit now admissionTime).after before
      let d := c.advance.after later
      c.failure? = some e → e.kind ≠ .peerClosed → d.isFinished = true →
        errorsOf d.effects = [(c.client, e)] := by
  intro h
  let o := Opening.hasty
  let silence : List Move :=
    [.writes (some ⟨.brokenPipe, "Broken pipe", none⟩), .event (.advance 1000)]
  have htold := h o.config o.application o.peer (.ofConfig o.config) none 0 0 (o.arrival ++ silence) []
    (.timeout (.idle 1000))
  rw [after_append, o.after_arrival] at htold
  revert htold
  decide +kernel

end Connection
end WebSocket
