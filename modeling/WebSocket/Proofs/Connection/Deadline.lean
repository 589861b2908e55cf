import WebSocket.Proofs.Connection.Failure

/-
The deadlines of a connection stand still while an item trickles in.  As long as what has arrived
is no whole item and cannot be refused, every step of a connection that waits either reads on and
leaves the connection as it is, or finds the deadline past (`Connection.Pending.step?_cases`);
nothing else moves the deadline.  So, however the bytes arrive, a connection whose client does not complete the
head is over when the time for the handshake is, without having written anything, and an open
connection whose client does not complete a frame sends its close frame when the limit is reached
(`Connection.expires_on_time`).
-/
namespace WebSocket
namespace Codec

variable {α : Type} {alike : Error → Error → Prop} {scan : Bytes → Scan α} {c next : Codec}

/-- What arrives comes in chunks, and may go on coming. -/
structure Flowing (c : Codec) : Prop where
  bytes : ∃ chunks, c.inbox.queue = List.map Arrival.bytes chunks
  ended : c.inbox.ended = false

theorem Flowing.of_reads (h : c.Flowing) (hreads : c.Reads next) : next.Flowing := by
  obtain ⟨chunks, hq⟩ := h.bytes
  refine ⟨?_, hreads.ended.trans h.ended⟩
  rw [List.suffix_iff_eq_drop.mp hreads.queue, hq, ← List.map_drop]
  exact ⟨_, rfl⟩

/-- What a scan of more bytes does not decide, a scan of fewer does not. -/
theorem wanting_of_append (hscan : Persistent alike scan) {d t : Bytes}
    (h : scan (d ++ t) = .wanting) : scan d = .wanting := by
  cases hd : scan d with
  | wanting => rfl
  | found item rest =>
    rw [hscan.found hd t] at h
    cases h
  | refused e =>
    obtain ⟨other, hother, -⟩ := hscan.refused hd t
    rw [hother] at h
    cases h

/-- While what has arrived decides nothing, a step reads on or waits. -/
theorem Flowing.step_of_wanting (h : c.Flowing) (hscan : Persistent alike scan) {future : Bytes}
    (hwanting : scan (c.unread ++ future) = .wanting) :
    (∃ next, c.step scan = .more next ∧ next.unread = c.unread ∧ next.limits = c.limits) ∨
      c.step scan = .waiting := by
  have hbuffer : scan c.buffer = .wanting := by
    rw [unread, List.append_assoc] at hwanting
    exact wanting_of_append hscan hwanting
  obtain ⟨chunks, hq⟩ := h.bytes
  cases chunks with
  | nil => exact .inr (by simp [step, hbuffer, hq, h.ended])
  | cons chunk chunks =>
    have hmore : c.step scan = .more { c with
        buffer := c.buffer ++ chunk
        inbox := { c.inbox with queue := chunks.map .bytes } } := by
      simp only [step, hbuffer, hq, List.map_cons]
    exact .inl ⟨_, hmore, unread_of_step_more hmore, rfl⟩

end Codec

namespace Connection

variable {c d next : Connection} {deadline : Nat} {future : Bytes} {m : Move}

/-! ## Calm -/

/-- Nothing fails, the server goes on, and the peer has not closed. -/
structure Calm (c : Connection) : Prop where
  canWrite : c.CanWrite
  running : c.stopping = false
  flowing : c.codec.Flowing

theorem calm_new (config : Config) (application : Application) (peer : Address)
    (admission : Admission.Controller) (permit : Option Admission.Controller.Permit)
    (now admissionTime : Nat) :
    (new config application peer admission permit now admissionTime).Calm :=
  ⟨⟨rfl, rfl⟩, rfl, ⟨[], rfl⟩, rfl⟩

theorem Calm.step (h : c.Calm) (hs : c.step? = some next) : next.Calm := by
  obtain ⟨codec, hreads, hg⟩ := exists_ground_of_step? hs
  have hcodec : next.codec = codec := congrArg Ground.codec hg
  refine ⟨⟨(congrArg Ground.writeFailure hg).trans h.canWrite.writes,
    (congrArg Ground.flushFailure hg).trans h.canWrite.flushes⟩,
    (congrArg Ground.stopping hg).trans h.running, ?_⟩
  rw [hcodec]
  exact h.flowing.of_reads hreads

/-- A calm move is a step, or brings chunks, or changes none but the clocks and the admission of
others. -/
theorem Calm.move (h : c.Calm) (hm : m.isCalm = true) : (c.move m).Calm := by
  obtain ⟨hwrites, hflushes⟩ := h.canWrite
  cases m with
  | step =>
    show (c.step?.getD c).Calm
    cases hs : c.step? with
    | none => exact h
    | some next => exact h.step hs
  | event e =>
    cases e with
    | deliver chunks =>
      obtain ⟨queued, hq⟩ := h.flowing.bytes
      refine ⟨⟨hwrites, hflushes⟩, h.running, ⟨queued ++ chunks.filter (!·.isEmpty), ?_⟩,
        h.flowing.ended⟩
      rw [List.map_append, ← hq]
      rfl
    | advance ms => exact ⟨⟨hwrites, hflushes⟩, h.running, h.flowing⟩
    | nothing => exact h
    | _ => cases hm
  | elsewhere admission time => exact ⟨⟨hwrites, hflushes⟩, h.running, h.flowing⟩
  | _ => cases hm

theorem Calm.after (h : c.Calm) {moves : List Move} (hmoves : ∀ m ∈ moves, m.isCalm = true) :
    (c.after moves).Calm := by
  induction moves generalizing c with
  | nil => exact h
  | cons m moves ih =>
    exact ih (h.move (hmoves m List.mem_cons_self)) fun m' hm =>
      hmoves m' (List.mem_cons_of_mem m hm)

theorem unread_move (c : Connection) (hm : m.isCalm = true) (hstep : m ≠ .step) :
    (c.move m).codec.unread = c.codec.unread ++ m.chunks.flatten := by
  cases m with
  | step => exact absurd rfl hstep
  | event e =>
    cases e with
    | deliver chunks =>
      show c.codec.buffer ++ (c.codec.inbox.deliver chunks).bytes = _
      rw [Inbox.bytes_deliver, Codec.unread, List.append_assoc]
      rfl
    | advance ms => exact (List.append_nil _).symm
    | nothing => exact (List.append_nil _).symm
    | _ => cases hm
  | elsewhere admission time => exact (List.append_nil _).symm
  | _ => cases hm

/-! ## Waiting -/

/-- A connection that has done nothing since another but read, while time has passed. -/
def Lingers (c d : Connection) : Prop :=
  d = { c with
    codec := d.codec
    now := d.now
    admission := d.admission
    admissionTime := d.admissionTime }

theorem Lingers.refl (c : Connection) : c.Lingers c := rfl

theorem Lingers.withCodec (h : c.Lingers d) (codec : Codec) : c.Lingers { d with codec } := by
  have hread := congrArg (fun e : Connection => { e with codec }) h
  exact hread

theorem Lingers.move (h : c.Lingers d) (hm : m.isCalm = true) (hstep : m ≠ .step) :
    c.Lingers (d.move m) := by
  have hmoved := congrArg (fun e => e.move m) h
  cases m with
  | step => exact absurd rfl hstep
  | event e =>
    cases e with
    | deliver chunks => exact hmoved
    | advance ms => exact hmoved
    | nothing => exact hmoved
    | _ => cases hm
  | elsewhere admission time => exact hmoved
  | _ => cases hm

theorem Lingers.same (h : c.Lingers d) :
    d.effects = c.effects ∧ d.phase = c.phase ∧ d.state = c.state ∧ d.config = c.config ∧
      d.client = c.client ∧ d.endings = c.endings := by
  unfold Lingers at h
  rw [h]
  exact ⟨rfl, rfl, rfl, rfl, rfl, rfl⟩

/-- A connection that waits with a deadline for an item that is not there, nor will be after the
bytes that are still to come. -/
inductive Pending (deadline : Nat) (c : Connection) (future : Bytes) : Prop
  | head (phase : c.phase = .awaitingHead (some deadline))
    (scan : scanHead c.codec.limits (c.codec.unread ++ future) = .wanting)
  | frame (phase : c.phase = .awaitingFrame (some deadline))
    (scan : scanFrame c.codec.limits (c.codec.unread ++ future) = .wanting)

/-- The connection after a step that finds its deadline past. -/
def lapse (c : Connection) : Connection :=
  match c.phase with
  | .awaitingHead _ => c.reject c.headTimeout
  | _ => c.expire c.idleTimeout

theorem isDue_some_iff : c.isDue (some deadline) = true ↔ deadline ≤ c.now :=
  decide_eq_true_iff

/-- A connection that waits reads on, or takes a step when the deadline is past and none before. -/
theorem Pending.step?_cases (h : c.Pending deadline future) (hcalm : c.Calm) :
    (∃ codec, c.step? = some { c with codec } ∧ Pending deadline { c with codec } future) ∨
      c.step? = if deadline ≤ c.now then some c.lapse else none := by
  have hdue : ∀ next : Connection, (if c.isDue (some deadline) then some next else none) =
      if deadline ≤ c.now then some next else none := by
    intro next
    simp only [isDue_some_iff]
  cases h with
  | head phase scan =>
    have hstep : c.step? = c.stepHead? (some deadline) := by simp only [step?, phase]
    have hlapse : c.lapse = c.reject c.headTimeout := by simp only [lapse, phase]
    rw [hstep, hlapse, stepHead?, if_neg (by simp [hcalm.running]), Codec.stepHead]
    rcases hcalm.flowing.step_of_wanting (persistent_scanHead _) scan with
      ⟨codec, hmore, hunread, hlimits⟩ | hwaiting
    · rw [hmore]
      refine .inl ⟨codec, rfl, .head phase ?_⟩
      rw [hunread, hlimits]
      exact scan
    · rw [hwaiting]
      exact .inr (hdue _)
  | frame phase scan =>
    have hstep : c.step? = c.stepFrame? (some deadline) := by simp only [step?, phase]
    have hlapse : c.lapse = c.expire c.idleTimeout := by simp only [lapse, phase]
    rw [hstep, hlapse, stepFrame?, if_neg (by simp [hcalm.running]), Codec.stepFrame]
    rcases hcalm.flowing.step_of_wanting (persistent_scanFrame _) scan with
      ⟨codec, hmore, hunread, hlimits⟩ | hwaiting
    · rw [hmore]
      refine .inl ⟨codec, rfl, .frame phase ?_⟩
      rw [hunread, hlimits]
      exact scan
    · rw [hwaiting]
      exact .inr (hdue _)

theorem Pending.move (h : c.Pending deadline (m.chunks.flatten ++ future)) (hm : m.isCalm = true)
    (hstep : m ≠ .step) : (c.move m).Pending deadline future := by
  have hinside := sameInside_move hstep c
  have hunread := c.unread_move hm hstep
  have hlimits : (c.move m).codec.limits = c.codec.limits := by
    cases m with
    | step => exact absurd rfl hstep
    | event e => cases e <;> rfl
    | _ => rfl
  cases h with
  | head phase scan =>
    refine .head (hinside.phase.trans phase) ?_
    rw [hlimits, hunread, List.append_assoc]
    exact scan
  | frame phase scan =>
    refine .frame (hinside.phase.trans phase) ?_
    rw [hlimits, hunread, List.append_assoc]
    exact scan

/-! ## Runs -/

theorem now_le_after (c : Connection) (moves : List Move) : c.now ≤ (c.after moves).now := by
  refine after_induction (P := fun d => c.now ≤ d.now) (fun d next hd hs => ?_)
    (fun d m hd hm => Nat.le_trans hd (now_le_move d hm)) (Nat.le_refl _) moves
  obtain ⟨codec, -, hg⟩ := exists_ground_of_step? hs
  have hnow : next.now = d.now := congrArg Ground.now hg
  rw [hnow]
  exact hd

/-- A connection that has waited since `c` still does, or there was a moment at which its deadline
was past, and from then on it has gone its way. -/
def Lapses (c : Connection) (deadline : Nat) (d : Connection) : Prop :=
  (d.Pending deadline [] ∧ d.Calm ∧ c.Lingers d) ∨
    ∃ due later, c.Lingers due ∧ due.Calm ∧ deadline ≤ due.now ∧ due.now ≤ d.now ∧
      d = due.lapse.after later

theorem Pending.after {moves : List Move} (hmoves : ∀ m ∈ moves, m.isCalm = true)
    (h : d.Pending deadline (delivered moves)) (hcalm : d.Calm) (hlingers : c.Lingers d) :
    c.Lapses deadline (d.after moves) := by
  -- until a step finds the deadline past, every move leaves a connection that pends
  induction moves generalizing d with
  | nil => exact .inl ⟨h, hcalm, hlingers⟩
  | cons m moves ih =>
    have hm := hmoves m List.mem_cons_self
    have hrest := fun m' hmem => hmoves m' (List.mem_cons_of_mem m hmem)
    by_cases hstep : m = .step
    · subst hstep
      show c.Lapses deadline ((d.step?.getD d).after moves)
      rcases h.step?_cases hcalm with ⟨codec, hs, hpending⟩ | hs
      · rw [hs]
        exact ih hrest hpending (hcalm.step hs) (hlingers.withCodec codec)
      · by_cases hdue : deadline ≤ d.now
        · rw [if_pos hdue] at hs
          obtain ⟨codec, -, hg⟩ := exists_ground_of_step? hs
          have hnow : d.lapse.now = d.now := congrArg Ground.now hg
          have hlater := now_le_after d.lapse moves
          rw [hnow] at hlater
          rw [hs]
          exact .inr ⟨d, moves, hlingers, hcalm, hdue, hlater, rfl⟩
        · rw [if_neg hdue] at hs
          rw [hs]
          exact ih hrest h hcalm hlingers
    · have hdelivered : delivered (m :: moves) = m.chunks.flatten ++ delivered moves := by
        rw [delivered, List.flatMap_cons, List.flatten_append]
        rfl
      rw [hdelivered] at h
      exact ih hrest (h.move hm hstep) (hcalm.move hm) (hlingers.move hm hstep)

theorem Pending.lingers {moves : List Move} (hmoves : ∀ m ∈ moves, m.isCalm = true)
    (h : c.Pending deadline (delivered moves)) (hcalm : c.Calm)
    (hearly : (c.after moves).now < deadline) : c.Lingers (c.after moves) := by
  rcases h.after hmoves hcalm (.refl c) with ⟨-, -, hlingers⟩ | ⟨due, rest, -, -, hdue, hnow, -⟩
  · exact hlingers
  · exact absurd (Nat.lt_of_lt_of_le hearly hdue) (Nat.not_lt.mpr hnow)

theorem Pending.settle {moves : List Move} (hmoves : ∀ m ∈ moves, m.isCalm = true)
    (h : c.Pending deadline (delivered moves)) (hcalm : c.Calm)
    (hdue : deadline ≤ (c.after moves).now) :
    ∃ due later, c.Lingers due ∧ due.Calm ∧ deadline ≤ due.now ∧
      (c.after moves).settle = due.lapse.after later := by
  obtain ⟨steps, hsteps⟩ := exists_after_eq_run (c.after moves).work (c.after moves)
  have hsettle : (c.after moves).settle = c.after (moves ++ List.replicate steps .step) := by
    rw [after_append, hsteps]
    rfl
  have hdelivered : delivered (moves ++ List.replicate steps .step) = delivered moves := by
    have hchunks : (List.replicate steps .step).flatMap Move.chunks = [] := by
      rw [List.flatMap_replicate]
      exact List.flatten_replicate_nil
    rw [delivered, List.flatMap_append, hchunks, List.append_nil]
    rfl
  have hcalmly : ∀ m ∈ moves ++ List.replicate steps .step, m.isCalm = true := by
    intro m hm
    rcases List.mem_append.mp hm with hm | hm
    · exact hmoves m hm
    · rw [List.eq_of_mem_replicate hm]
      rfl
  have hnow : (c.after moves).now ≤ (c.after moves).settle.now := by
    rw [Connection.settle, ← hsteps]
    exact now_le_after _ _
  rw [← hdelivered] at h
  have hlapses := h.after hcalmly hcalm (.refl c)
  rw [← hsettle] at hlapses
  rcases hlapses with ⟨hpending, hcalm', -⟩ | ⟨due, later, hlingers, hcalm', hlate, -, heq⟩
  · -- what has settled takes no step, so its deadline is still to come
    have hwaits := step?_settle (c.after moves)
    rcases hpending.step?_cases hcalm' with ⟨codec, hs, -⟩ | hs
    · rw [hwaits] at hs
      cases hs
    · rw [hwaits, if_pos (Nat.le_trans hdue hnow)] at hs
      cases hs
  · exact ⟨due, later, hlingers, hcalm', hlate, heq⟩

/-! ## The head -/

theorem lapse_of_awaitingHead {limit : Option Nat} (hp : c.phase = .awaitingHead limit) :
    c.lapse = c.finish (some c.headTimeout) := by
  simp only [lapse, hp]
  rfl

theorem settle_head {moves : List Move} (hmoves : ∀ m ∈ moves, m.isCalm = true)
    (hcalm : c.Calm) (hp : c.phase = .awaitingHead (some deadline))
    (hscan : scanHead c.codec.limits (c.codec.unread ++ delivered moves) = .wanting)
    (hdue : deadline ≤ (c.after moves).now) (later : List Move) :
    ((c.after moves).settle.after later).isFinished = true ∧
      ((c.after moves).settle.after later).effects =
        c.effects ++ .call (.error c.client c.headTimeout) :: c.endings := by
  obtain ⟨due, rest, hlingers, -, -, heq⟩ := Pending.settle hmoves (.head hp hscan) hcalm hdue
  obtain ⟨heffects, hphase, -, hconfig, hclient, hendings⟩ := hlingers.same
  have herror : due.headTimeout = c.headTimeout := by rw [headTimeout, headTimeout, hconfig]
  have hfinish : (c.after moves).settle.after later =
      (due.finish (some due.headTimeout)).after (rest ++ later) := by
    rw [heq, lapse_of_awaitingHead (hphase.trans hp), after_append]
  obtain ⟨hfinished, hlog⟩ :=
    log_after_of_finished (phase_finish due (some due.headTimeout)) (rest ++ later)
  rw [hfinish]
  refine ⟨by rw [isFinished, hfinished]; rfl, ?_⟩
  rw [effects, hlog, ← effects, effects_finish, heffects, hendings, hclient, herror]
  rfl

/-! ## Frames -/

/-- An open connection without a frame sends its close frame and waits for the peer's. -/
theorem CanWrite.expire (h : c.CanWrite) (hopen : c.state = .open) (e : Error) :
    (c.expire e).phase = .draining (c.now + c.config.timeouts.close) (some e) ∧
      (c.expire e).effects = c.effects ++ [.enter .closing, .write idleParting] ∧
      (c.expire e).client = c.client ∧ (c.expire e).endings = c.endings := by
  have hcan : c.state.canSend = true := by rw [hopen]; rfl
  have hparting : (Message.close (some ⟨.goingAway, "Idle timeout"⟩)).toFrame.encode =
      idleParting := by decide
  have hclosing : (c.enter .closing).CanWrite := ⟨h.writes, h.flushes⟩
  have hwrite := hclosing.write idleParting
  have heq : c.expire e = { c with
      state := .closing
      log := .write idleParting :: .enter .closing :: c.log
      phase := .draining (c.now + c.config.timeouts.close) (some e) } := by
    simp only [Connection.expire, closeWith, if_pos hcan, send, hparting, hwrite]
    rfl
  rw [heq]
  exact ⟨rfl, by simp [effects], rfl, rfl⟩

theorem settle_frame {moves : List Move} (hmoves : ∀ m ∈ moves, m.isCalm = true)
    (hcalm : c.Calm) (hp : c.phase = .awaitingFrame (some deadline)) (hopen : c.state = .open)
    (hscan : scanFrame c.codec.limits (c.codec.unread ++ delivered moves) = .wanting)
    (hdue : deadline ≤ (c.after moves).now) :
    ∃ done, (c.after moves).settle.effects =
        c.effects ++ .enter .closing :: .write idleParting :: done ∧
      (done = [] ∨ done = .enter .closed :: .call (.error c.client c.idleTimeout) :: c.endings) := by
  obtain ⟨due, rest, hlingers, hcalm', -, heq⟩ :=
    Pending.settle hmoves (.frame hp hscan) hcalm hdue
  obtain ⟨heffects, hphase, hstate, hconfig, hclient, hendings⟩ := hlingers.same
  obtain ⟨hdraining, hparted, hclient', hendings'⟩ :=
    hcalm'.canWrite.expire (hstate.trans hopen) due.idleTimeout
  have herror : due.idleTimeout = c.idleTimeout := by rw [idleTimeout, idleTimeout, hconfig]
  have hlapse : due.lapse = due.expire due.idleTimeout := by
    simp only [lapse, hphase.trans hp]
  rw [heq, hlapse]
  rw [heffects] at hparted
  rcases drains_after hdraining rest with ⟨-, hsame, -⟩ | ⟨-, hend⟩
  · exact ⟨[], by rw [hsame, hparted], .inl rfl⟩
  · refine ⟨_, ?_, .inr rfl⟩
    rw [hend, hparted, hclient', hendings', hclient, hendings, herror, List.append_assoc]
    rfl

/-! ## On time -/

theorem OnCourse.phase_of_open (h : c.OnCourse) (hopen : c.state = .open) :
    ∃ limit, c.phase = .awaitingFrame limit := by
  have hstate := h.state_eq
  cases hp : c.phase with
  | awaitingFrame limit => exact ⟨limit, rfl⟩
  | _ =>
    rw [hopen, hp] at hstate
    cases hstate

/-- The step with which an open connection hears from its peer sets the deadline of the next
wait. -/
theorem waits_of_hears {limit : Nat} (hcourse : c.OnCourse)
    (hidle : c.config.timeouts.idle = some limit) (hears : c.hears = true)
    (hopen : c.advance.state = .open) :
    c.advance.phase = .awaitingFrame (some (c.now + limit)) := by
  obtain ⟨next, hs⟩ := Option.ne_none_iff_exists'.mp (step?_ne_none_of_hears hears)
  have hnext : c.advance = next := by rw [advance, hs]; rfl
  rw [hnext] at hopen ⊢
  obtain ⟨wait, hp⟩ := (hcourse.step hs).phase_of_open hopen
  rcases waits_of_step? hs hp with ⟨-, hdeadline⟩ | ⟨hdeaf, -⟩
  · rw [hp, hdeadline, hidle]
    rfl
  · rw [hears] at hdeaf
    cases hdeaf

/-- After the step with which an open connection hears from its peer nothing happens until the
limit is reached, and then it sends its close frame. -/
theorem expires_frame {limit : Nat} {later : List Move} (hcourse : c.OnCourse) (hcalm : c.Calm)
    (hidle : c.config.timeouts.idle = some limit) (hears : c.hears = true)
    (hopen : c.advance.state = .open) (hlater : ∀ m ∈ later, m.isCalm = true)
    (hscan : scanFrame c.advance.codec.limits (c.advance.codec.unread ++ delivered later) =
      .wanting) :
    let opened := c.advance
    let d := opened.after later
    (d.now < c.now + limit → d.effects = opened.effects ∧ d.state = .open) ∧
      (c.now + limit ≤ d.now → ∃ done,
        d.settle.effects = opened.effects ++ .enter .closing :: .write idleParting :: done ∧
        writesOf done = [] ∧ (callsOf done = [] ∨ callsOf done =
          [.error opened.client (.timeout (.idle limit)), .disconnect opened.client])) := by
  intro opened d
  have hp : opened.phase = .awaitingFrame (some (c.now + limit)) :=
    waits_of_hears hcourse hidle hears hopen
  have hcalm' : opened.Calm := hcalm.move (m := .step) rfl
  refine ⟨fun hearly => ?_, fun hlate => ?_⟩
  · obtain ⟨heffects, -, hstate, -⟩ := ((Pending.frame hp hscan).lingers hlater hcalm' hearly).same
    exact ⟨heffects, hstate.trans hopen⟩
  · obtain ⟨done, heffects, hdone⟩ := settle_frame hlater hcalm' hp hopen hscan hlate
    refine ⟨done, heffects, ?_⟩
    have hconnected : opened.connected = true := by
      obtain ⟨s, -, hat⟩ := hcourse.after [.step]
      simp only [IsAt, show (c.after [.step]).phase = _ from hp] at hat
      exact hat.2.2
    have herror : opened.idleTimeout = .timeout (.idle limit) := by
      have hconfig : opened.config = c.config := (origin_after c [.step]).1
      rw [idleTimeout, hconfig, hidle]
      rfl
    rcases hdone with rfl | rfl
    · exact ⟨rfl, .inl rfl⟩
    · refine ⟨writesOf_endings opened, .inr ?_⟩
      rw [herror]
      have hend : callsOf opened.endings = [.disconnect opened.client] := by
        rw [callsOf_endings, if_pos hconnected]
      exact congrArg (List.cons _) hend

/-- However bytes trickle in, a connection whose client has not completed the head when the time for
the handshake is over ends then, and the application is told of the timeout and of nothing else; and
an open connection whose client completes no frame and sends none that is refused for as long as the
limit after the last one was taken up sends its close frame when the limit is reached.  Before that
time nothing happens. -/
theorem expires_on_time (config : Config) (application : Application) (peer : Address)
    (admission : Admission.Controller) (permit : Option Admission.Controller.Permit)
    (now admissionTime : Nat) :
    let start := new config application peer admission permit now admissionTime
    (∀ (limit : Nat) (moves : List Move), config.timeouts.handshake = some limit →
      (∀ m ∈ moves, m.isCalm = true) → ¬ Http.headEnd <:+: delivered moves →
      (delivered moves).length ≤ config.limits.maxRequestSize →
        let c := start.after (.step :: moves)
        (c.now < now + limit → c.effects = [] ∧ c.isFinished = false) ∧
        (now + limit ≤ c.now → ∀ later, (c.settle.after later).isFinished = true ∧
          writesOf (c.settle.after later).effects = [] ∧
          callsOf (c.settle.after later).effects =
            [.error start.client (.timeout (.handshake limit))])) ∧
    ∀ (limit : Nat) (before later : List Move), config.timeouts.idle = some limit →
      (∀ m ∈ before, m.isCalm = true) → (∀ m ∈ later, m.isCalm = true) →
        let c := start.after before
        let opened := c.advance
        let d := opened.after later
        c.hears = true → opened.state = .open →
        scanFrame config.limits (opened.codec.unread ++ delivered later) = .wanting →
          (d.now < c.now + limit → d.effects = opened.effects ∧ d.state = .open) ∧
          (c.now + limit ≤ d.now → ∃ done,
            d.settle.effects = opened.effects ++ .enter .closing :: .write idleParting :: done ∧
            writesOf done = [] ∧ (callsOf done = [] ∨ callsOf done =
              [.error opened.client (.timeout (.idle limit)), .disconnect opened.client])) := by
  intro start
  have hstart : start.Calm := calm_new ..
  refine ⟨fun limit moves hlimit hmoves hend hsize => ?_,
    fun limit before later hlimit hbefore hlater => ?_⟩
  · intro c
    have hc : c = start.awaitHead.after moves := rfl
    have hcalm : start.awaitHead.Calm := hstart.step rfl
    have hp : start.awaitHead.phase = .awaitingHead (some (now + limit)) := by
      show Phase.awaitingHead (config.timeouts.handshake.map (now + ·)) = _
      rw [hlimit]
      rfl
    have herror : start.awaitHead.headTimeout = .timeout (.handshake limit) := by
      show Error.timeout (.handshake (config.timeouts.handshake.getD 0)) = _
      rw [hlimit]
      rfl
    have hscan : scanHead config.limits ([] ++ delivered moves) = .wanting :=
      scanHead_eq_wanting_iff.mpr ⟨Http.headSize?_eq_none_iff.mpr hend, hsize⟩
    refine ⟨fun hearly => ?_, fun hlate later => ?_⟩
    · obtain ⟨heffects, hphase, -⟩ := ((Pending.head hp hscan).lingers hmoves hcalm hearly).same
      refine ⟨heffects, ?_⟩
      rw [hc, isFinished, hphase, hp]
      rfl
    · obtain ⟨hfinished, heffects⟩ := settle_head hmoves hcalm hp hscan hlate later
      rw [herror, ← hc] at heffects
      refine ⟨hfinished, ?_, ?_⟩ <;> rw [heffects]
      · exact writesOf_endings start.awaitHead
      · exact congrArg (List.cons _) (callsOf_endings start.awaitHead)
  · intro c opened d hears hopen hscan
    have hconfig : c.config = config := (origin_after start before).1
    have hlimits : opened.codec.limits = config.limits := by
      have hafter : opened = start.after (before ++ [.step]) :=
        (after_append start before [.step]).symm
      rw [hafter]
      exact limits_after start _
    rw [← hlimits] at hscan
    rw [← hconfig] at hlimit
    exact expires_frame ((onCourse_new ..).after before) (hstart.after hbefore) hlimit hears hopen
      hlater hscan

/-- More of the head, and a first byte of a frame, do not put the end off. -/
theorem expires_on_time_trickle :
    let o := Opening.hasty
    let start := new o.config o.application o.peer (.ofConfig o.config) none 0 0
    let head : List Move := [.event (.deliver [o.head.take 40]), .step, .event (.advance 29999),
      .event (.deliver [(o.head.drop 40).take 40]), .step, .event (.advance 1)]
    let before : List Move := [.step, .event (.deliver [o.head]), .step]
    let frame : List Move := [.event (.advance 900), .event (.deliver [[0x81]]), .step,
      .event (.advance 100)]
    let late := (start.after (.step :: head)).settle.after []
    let opened := (start.after before).advance
    (late.isFinished = true ∧
      callsOf late.effects = [.error start.client (.timeout (.handshake 30000))]) ∧
    ∃ done, (opened.after frame).settle.effects =
      opened.effects ++ .enter .closing :: .write idleParting :: done := by
  intro o start head before frame late opened
  obtain ⟨hhead, hframe⟩ :=
    expires_on_time o.config o.application o.peer (.ofConfig o.config) none 0 0
  -- in full, so that a field of the connection is compared without running the handshake
  have hopened : ((new o.config o.application o.peer (.ofConfig o.config) none 0 0).after
      before).advance = o.entered (.ofConfig o.config) 0 0 := o.advance_arrival ..
  have hnone : Http.headSize? (delivered head) = none := by decide +kernel
  refine ⟨?_, ?_⟩
  · obtain ⟨hfinished, -, hcalls⟩ :=
      (hhead 30000 head rfl (by decide) (Http.headSize?_eq_none_iff.mp hnone) (by decide +kernel)).2
        (by decide +kernel) []
    exact ⟨hfinished, hcalls⟩
  · have hears : (start.after before).hears = true := by decide +kernel
    obtain ⟨done, hdone, -⟩ := (hframe 1000 before frame rfl (by decide) (by decide) hears
      (congrArg Connection.state hopened) (by rw [hopened]; rfl)).2 (by rw [hopened]; decide +kernel)
    exact ⟨done, hdone⟩

end Connection
end WebSocket
