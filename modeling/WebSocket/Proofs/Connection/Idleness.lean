import WebSocket.Proofs.Connection.Arrival
import WebSocket.Proofs.Connection.Withdrawal

/-
When an idle connection is closed.  The wait for a frame begins with the step that opens the
connection, and begins anew with each step that takes up a frame: no other step sets its deadline
(`Connection.waits_of_step?`).  So the deadline of a wait is the limit counted from the last time
at which the connection has heard from its peer (`Connection.waits_after`).  A step that writes the
close frame of an idle connection finds that deadline past, unless a read fails with an error that
reads like a timeout, or the peer has sent a close frame with the same content
(`Connection.idle_of_parting`).
-/
namespace WebSocket

/-- Whether a step of reading gives an item. -/
def Reading.isItem {α : Type} : Reading α → Bool
  | .done (.ok _) _ => true
  | _ => false

theorem Codec.buffer_ne_nil_of_stepFrame {c next : Codec} {frame : Frame}
    (h : c.stepFrame = .done (.ok frame) next) : c.buffer ≠ [] := by
  intro hnil
  obtain ⟨rest, hfound, -⟩ := step_ok h
  have hlength := length_lt_of_scanFrame hfound
  rw [hnil] at hlength
  exact Nat.not_lt_zero _ hlength

namespace Connection

/-- Whether the next step takes up the head of the request or a frame. -/
def hears (c : Connection) : Bool :=
  match c.phase with
  | .awaitingHead _ => !c.stopping && c.codec.stepHead.isItem
  | .awaitingFrame _ => !c.stopping && c.codec.stepFrame.isItem
  | _ => false

/-- When a connection has last heard from its peer in the course of a run, if it has. -/
def lastHeard (c : Connection) (past : Option Nat) : List Move → Option Nat
  | [] => past
  | m :: moves =>
    lastHeard (c.move m) (if m = .step ∧ c.hears = true then some c.now else past) moves

variable {c d next : Connection}

/-! ## The deadline -/

/-- If a connection has come to wait for a frame, the wait begins now. -/
def Rests (c d : Connection) : Prop :=
  ∀ deadline, d.phase = .awaitingFrame deadline →
    deadline = c.config.timeouts.idle.map (c.now + ·)

theorem rests_of_finished (h : d.phase = .finished) : c.Rests d := by
  intro deadline hp
  rw [h] at hp
  cases hp

theorem rests_of_rank (h : d.phase.rank ≤ 1) : c.Rests d := by
  intro deadline hp
  rw [hp] at h
  exact absurd h (by simp [Phase.rank])

theorem rests_awaitFrame (hg : d.ground = c.ground) : c.Rests d.awaitFrame := by
  intro deadline hp
  have hconfig : d.config = c.config := congrArg Ground.config hg
  have hnow : d.now = c.now := congrArg Ground.now hg
  rw [← hconfig, ← hnow]
  exact (Phase.awaitingFrame.inj hp).symm

theorem Rests.of_ground (hg : d.ground = c.ground) (h : d.Rests next) : c.Rests next := by
  have hconfig : d.config = c.config := congrArg Ground.config hg
  have hnow : d.now = c.now := congrArg Ground.now hg
  intro deadline hp
  rw [← hconfig, ← hnow]
  exact h deadline hp

theorem rests_accept (c : Connection) (request : Upgrade.Request) :
    c.Rests (c.accept request) := by
  unfold accept
  split <;> rename_i hw
  · exact rests_of_finished rfl
  · have hg := ground_of_write hw
    exact rests_awaitFrame hg

theorem rests_handshake (c : Connection) (head : Bytes) : c.Rests (c.handshake head) := by
  unfold handshake
  simp only
  split
  · exact rests_of_finished (phase_reject ..)
  · split <;> rename_i hre
    · exact rests_of_finished (phase_reject ..)
    · have hg := ground_of_reidentify hre
      exact (rests_accept _ _).of_ground hg

theorem rests_reply (c : Connection) (reply : Option Frame) : c.Rests (c.reply reply) := by
  unfold Connection.reply
  split
  · exact rests_awaitFrame rfl
  · split <;> rename_i hw
    · exact rests_of_finished rfl
    · exact rests_awaitFrame (ground_of_send hw)

theorem rests_answer (c : Connection) (message : Message) : c.Rests (c.answer message) := by
  unfold answer
  split
  · exact (rests_reply _ _).of_ground rfl
  · exact (rests_reply _ _).of_ground rfl
  · exact rests_reply c _
  · exact rests_awaitFrame rfl
  · exact rests_of_finished rfl

theorem rests_dispatch (c : Connection) (frame : Frame) : c.Rests (c.dispatch frame) := by
  unfold dispatch
  split
  · exact rests_answer c _
  · split
    · exact rests_of_finished rfl
    · exact rests_of_rank (rank_fail_le ..)

/-- A wait for a frame begins with a step that hears from the peer, and no other step that leads to
one changes its deadline. -/
theorem waits_of_step? {deadline : Option Nat} (h : c.step? = some next)
    (hp : next.phase = .awaitingFrame deadline) :
    (c.hears = true ∧ deadline = c.config.timeouts.idle.map (c.now + ·)) ∨
      (c.hears = false ∧ c.phase = .awaitingFrame deadline) := by
  have hfinished : next.phase ≠ .finished := by simp [hp]
  have hrank : ¬ next.phase.rank ≤ 1 := by simp [hp, Phase.rank]
  cases hphase : c.phase with
  | accepted =>
    simp only [step?, hphase] at h
    cases h
    cases hp
  | awaitingHead limit =>
    simp only [step?, hphase] at h
    cases headStep h with
    | stop => exact absurd rfl hfinished
    | @found head codec running read =>
      have hears : c.hears = true := by simp [hears, hphase, running, read, Reading.isItem]
      exact .inl ⟨hears, rests_handshake { c with codec } head deadline hp⟩
    | failed => exact absurd (phase_reject ..) hfinished
    | more => simp [hphase] at hp
    | late => exact absurd (phase_reject ..) hfinished
  | awaitingFrame limit =>
    simp only [step?, hphase] at h
    cases frameStep h with
    | stop => exact absurd (rank_goAway_le c) hrank
    | @found frame codec running read =>
      have hears : c.hears = true := by simp [hears, hphase, running, read, Reading.isItem]
      exact .inl ⟨hears, rests_dispatch { c with codec } frame deadline hp⟩
    | timedOut => exact absurd (rank_expire_le ..) hrank
    | failed => exact absurd (rank_fail_le ..) hrank
    | more running read =>
      have hears : c.hears = false := by simp [hears, hphase, running, read, Reading.isItem]
      exact .inr ⟨hears, hphase.symm.trans hp⟩
    | late => exact absurd (rank_expire_le ..) hrank
  | draining limit verdict =>
    simp only [step?, hphase] at h
    cases drainStep h <;> simp [hphase] at hp
  | finished => simp [step?, hphase] at h

theorem step?_ne_none_of_hears (h : c.hears = true) : c.step? ≠ none := by
  unfold hears at h
  split at h
  · rename_i hp
    simp only [Bool.and_eq_true, Bool.not_eq_true'] at h
    simp only [step?, hp, stepHead?, h.1]
    cases hread : c.codec.stepHead with
    | done result => cases result <;> simp
    | _ => simp [hread, Reading.isItem] at h
  · rename_i hp
    simp only [Bool.and_eq_true, Bool.not_eq_true'] at h
    simp only [step?, hp, stepFrame?, h.1]
    cases hread : c.codec.stepFrame with
    | done result => cases result <;> simp
    | _ => simp [hread, Reading.isItem] at h
  · cases h

/-- The wait of a connection counts from a time: its deadline is the limit after it. -/
def Counts (past : Option Nat) (c : Connection) : Prop :=
  ∀ deadline, c.phase = .awaitingFrame deadline →
    ∃ time, past = some time ∧ deadline = c.config.timeouts.idle.map (time + ·)

theorem Counts.step {past : Option Nat} (h : c.Counts past) (hs : c.step? = some next) :
    next.Counts (if c.hears = true then some c.now else past) := by
  obtain ⟨codec, -, hg⟩ := exists_ground_of_step? hs
  have hconfig : next.config = c.config := congrArg Ground.config hg
  intro deadline hp
  rw [hconfig]
  rcases waits_of_step? hs hp with ⟨hears, hdeadline⟩ | ⟨hears, hsame⟩
  · exact ⟨c.now, if_pos hears, hdeadline⟩
  · obtain ⟨time, hpast, hdeadline⟩ := h deadline hsame
    exact ⟨time, by simpa [hears] using hpast, hdeadline⟩

theorem Counts.move {past : Option Nat} (h : c.Counts past) (m : Move) :
    (c.move m).Counts (if m = .step ∧ c.hears = true then some c.now else past) := by
  by_cases hm : m = .step
  · subst hm
    show Counts _ (c.step?.getD c)
    simp only [true_and]
    cases hs : c.step? with
    | some next => exact h.step hs
    | none =>
      have hears : c.hears ≠ true := fun hears => step?_ne_none_of_hears hears hs
      rw [if_neg hears]
      exact h
  · rw [if_neg fun hboth => hm hboth.1]
    have hinside := sameInside_move hm c
    intro deadline hp
    rw [hinside.config]
    exact h deadline (hinside.phase.symm.trans hp)

/-- The wait for a frame counts from the time at which the connection has last heard from its
peer. -/
theorem Counts.after {past : Option Nat} (h : c.Counts past) (moves : List Move) :
    (c.after moves).Counts (c.lastHeard past moves) := by
  induction moves generalizing past c with
  | nil => exact h
  | cons m moves ih => exact ih (h.move m)

theorem counts_new (config : Config) (application : Application) (peer : Address)
    (admission : Admission.Controller) (permit : Option Admission.Controller.Permit)
    (now admissionTime : Nat) :
    (new config application peer admission permit now admissionTime).Counts none := by
  intro deadline hp
  cases hp

/-! ## The close frame -/

/-- The close frame of an idle connection. -/
def idleParting : Bytes :=
  (Frame.close (some .goingAway) "Idle timeout").encode

theorem sound_idleParting : (Frame.close (some .goingAway) "Idle timeout").Sound :=
  @Frame.sound_close (some ⟨.goingAway, "Idle timeout"⟩) rfl

/-- Only close frames with the same payload have the bytes of that frame. -/
theorem payload_of_encode_eq {content : Option CloseFrame}
    (h : (Message.close content).Orderly)
    (heq : (Message.close content).toFrame.encode = idleParting) :
    (Message.close content).toFrame.payload =
      Frame.closePayload (some .goingAway) "Idle timeout" :=
  congrArg Frame.payload (eq_of_encode_eq (Frame.sound_close h) sound_idleParting heq)

theorem encode_ne_idleParting {code : CloseCode} (h : code.isValid = true) :
    (Message.close (some ⟨code, ""⟩)).toFrame.encode ≠ idleParting := by
  intro heq
  have horderly : (Message.close (some ⟨code, ""⟩)).Orderly := h
  have hpayload := congrArg List.length (payload_of_encode_eq horderly heq)
  have hempty : Text.clip Frame.maxCloseReason "" = "" := Text.clip_eq_self (by decide)
  have hlength : (Message.close (some ⟨code, ""⟩)).toFrame.payload.length = 2 := by
    rw [Message.toFrame, hempty]
    rfl
  rw [hlength] at hpayload
  exact absurd hpayload (by decide)

/-- A connection has come to another and has not written the close frame of an idle connection. -/
def Spares (c d : Connection) : Prop :=
  ∃ done, d.effects = c.effects ++ done ∧ idleParting ∉ writesOf done

theorem Spares.refl (c : Connection) : c.Spares c :=
  ⟨[], (List.append_nil _).symm, List.not_mem_nil⟩

theorem Spares.trans (h : c.Spares d) (h' : d.Spares next) : c.Spares next := by
  obtain ⟨done, heffects, hdone⟩ := h
  obtain ⟨done', heffects', hdone'⟩ := h'
  refine ⟨done ++ done', by rw [heffects', heffects, List.append_assoc], fun hmem => ?_⟩
  rw [writesOf_append] at hmem
  exact (List.mem_append.mp hmem).elim hdone hdone'

theorem spares_of_log (new : List Effect) (h : d.log = new ++ c.log)
    (hnew : idleParting ∉ writesOf new.reverse) : c.Spares d :=
  ⟨new.reverse, by rw [effects, effects, h, List.reverse_append], hnew⟩

theorem spares_emit {e : Effect} (he : writesOf [e] = []) : c.Spares (c.emit e) := by
  refine spares_of_log [e] rfl ?_
  show idleParting ∉ writesOf [e]
  rw [he]
  exact List.not_mem_nil

theorem spares_enter (c : Connection) (s : ConnectionState) : c.Spares (c.enter s) :=
  spares_of_log [.enter s] rfl List.not_mem_nil

theorem spares_write {data : Bytes} (h : data ≠ idleParting) : c.Spares (c.write data).1 := by
  have hwrite : c.Spares (c.emit (.write data)) := by
    refine spares_of_log [.write data] rfl ?_
    show idleParting ∉ [data]
    exact fun hmem => h (List.mem_singleton.mp hmem).symm
  rcases c.write_cases data with ⟨-, -, hw⟩ | ⟨failure, -, hw⟩ | ⟨failure, -, -, hw⟩ <;> rw [hw]
  · exact hwrite
  · exact spares_emit rfl
  · exact hwrite.trans (spares_emit rfl)

theorem spares_of_write {data : Bytes} {e : Option Error} (h : data ≠ idleParting)
    (hw : c.write data = (d, e)) : c.Spares d := by
  have hspares := spares_write (c := c) h
  rwa [hw] at hspares

theorem spares_finish (c : Connection) (verdict : Option Error) : c.Spares (c.finish verdict) := by
  refine ⟨_, effects_finish c verdict, ?_⟩
  rw [writesOf_append, writesOf_reported, writesOf_endings]
  exact List.not_mem_nil

theorem refusalBytes_ne_idleParting (status : Http.Status) :
    status.refusalBytes ≠ idleParting := by
  cases status <;> decide

theorem spares_reject (c : Connection) (e : Error) : c.Spares (c.reject e) := by
  unfold reject
  split
  · exact (spares_write (refusalBytes_ne_idleParting _)).trans (spares_finish _ _)
  · exact spares_finish c _

theorem spares_closeWith (c : Connection) {code : CloseCode} {reason : String}
    (h : (Message.close (some ⟨code, reason⟩)).toFrame.encode ≠ idleParting)
    (verdict : Option Error) (onFailure : Error → Option Error) :
    c.Spares (c.closeWith code reason verdict onFailure) := by
  unfold closeWith
  split
  · split <;> rename_i hw
    · exact ((spares_enter c .closing).trans (spares_of_write h hw)).trans (spares_finish _ _)
    · have hspares := (spares_enter c .closing).trans (spares_of_write h hw)
      exact hspares
  · exact spares_finish c _

theorem spares_fail (c : Connection) (e : Error) : c.Spares (c.fail e) := by
  unfold fail
  split
  · rename_i code hcode
    exact spares_closeWith c (encode_ne_idleParting (isValid_of_closeCode? hcode)) _ _
  · exact spares_finish c _

theorem spares_goAway (c : Connection) : c.Spares c.goAway :=
  spares_closeWith c (by decide) _ _

theorem spares_drained (c : Connection) (verdict : Option Error) :
    c.Spares (c.drained verdict) :=
  (spares_enter c .closed).trans (spares_finish _ _)

theorem spares_accept (c : Connection) (request : Upgrade.Request) :
    c.Spares (c.accept request) := by
  have hresponse : Bytes.ofText request.acceptResponse ≠ idleParting := fun heq =>
    encode_ne_acceptResponse sound_idleParting request heq.symm
  unfold accept
  split <;> rename_i hw
  · exact (spares_of_write hresponse hw).trans (spares_finish _ _)
  · rename_i written
    refine (spares_of_write hresponse hw).trans ?_
    exact spares_of_log [.call (.connect written.client), .enter .open] rfl
      List.not_mem_nil

theorem spares_reidentify (c : Connection) (request : Upgrade.Request) :
    c.Spares (c.reidentify request).1 := by
  rcases c.reidentify_cases request with ⟨-, hre⟩ | ⟨-, hre⟩ |
    ⟨permit, passed, admission, -, -, hre⟩ | ⟨permit, kept, admission, decision, -, -, -, hre⟩ <;>
    rw [hre]
  · exact .refl c
  · exact .refl c
  · exact spares_of_log [.transfer _ _ _] rfl List.not_mem_nil
  · exact spares_of_log [.transfer _ _ _] rfl List.not_mem_nil

theorem spares_handshake (c : Connection) (head : Bytes) : c.Spares (c.handshake head) := by
  refine (spares_enter c .handshaking).trans ?_
  unfold handshake
  simp only
  split
  · exact spares_reject ..
  · rename_i request _
    have hspares := (c.enter .handshaking).spares_reidentify request
    split <;> rename_i hre <;> rw [hre] at hspares
    · exact hspares.trans (spares_reject ..)
    · exact hspares.trans (spares_accept ..)

theorem spares_reply (c : Connection) {reply : Option Frame}
    (h : ∀ frame, reply = some frame → frame.firstByte ≠ 0x88) : c.Spares (c.reply reply) := by
  unfold Connection.reply
  split
  · exact .refl c
  · rename_i frame
    have hframe : frame.encode ≠ idleParting := by
      intro heq
      have hhead := congrArg List.head? heq
      exact h frame rfl (Option.some.inj hhead)
    split <;> rename_i hw
    · exact (spares_of_write hframe hw).trans (spares_finish _ _)
    · have hspares := spares_of_write hframe hw
      exact hspares

theorem spares_part (c : Connection) {frame : Frame} (h : frame.encode ≠ idleParting)
    (verdict : Option Error) :
    c.Spares ((((c.enter .closing).sendAnyway frame).enter .closed).finish verdict) :=
  (((spares_enter c .closing).trans (spares_write h)).trans (spares_enter _ .closed)).trans
    (spares_finish _ verdict)

/-- A message is answered with that frame only if it is one that says the same. -/
theorem spares_answer (c : Connection) {message : Message}
    (h : ∀ content, message = .close content →
      (Message.close content).toFrame.encode ≠ idleParting) :
    c.Spares (c.answer message) := by
  unfold answer
  split
  · refine (spares_emit rfl).trans (spares_reply _ fun frame hframe => ?_)
    obtain ⟨reply, -, rfl⟩ := Option.map_eq_some_iff.mp hframe
    show (Frame.text "").firstByte ≠ 0x88
    decide
  · refine (spares_emit rfl).trans (spares_reply _ fun frame hframe => ?_)
    obtain ⟨reply, -, rfl⟩ := Option.map_eq_some_iff.mp hframe
    show (Frame.binary []).firstByte ≠ 0x88
    decide
  · refine spares_reply c fun frame hframe => ?_
    cases hframe
    show (Frame.pong []).firstByte ≠ 0x88
    decide
  · exact .refl c
  · exact spares_part c (h _ rfl) none

theorem spares_answerBadClose (c : Connection) (e : Error) : c.Spares (c.answerBadClose e) := by
  obtain ⟨code, hcode, heq⟩ := c.answerBadClose_eq e
  rw [heq]
  exact spares_part c (encode_ne_idleParting hcode) (some e)

/-- A frame that is a close frame with the content of that of an idle connection. -/
def EchoesIdle (frame : Frame) : Prop :=
  frame.opcode = .close ∧ frame.payload = Frame.closePayload (some .goingAway) "Idle timeout"

theorem spares_dispatch (c : Connection) {frame : Frame} (h : ¬ EchoesIdle frame) :
    c.Spares (c.dispatch frame) := by
  unfold dispatch
  split
  · rename_i message hmessage
    refine spares_answer c fun content hcontent heq => h ?_
    subst hcontent
    have hpayload := payload_of_encode_eq (Message.orderly_of_ofFrame hmessage) heq
    rw [Message.toFrame_of_ofFrame hmessage] at hpayload
    exact ⟨(Message.carries_of_ofContent (Message.ofFrame_eq_ok_iff.mp hmessage).2).1, hpayload⟩
  · split
    · exact spares_answerBadClose ..
    · exact spares_fail ..

/-! ## Steps -/

/-- A read that fails although no limit of the connection is over: the system reports that it has
timed out, or that there is nothing to read yet. -/
def FailsLate (c : Connection) : Prop :=
  ∃ failure rest codec, c.codec.inbox.queue = .failure failure :: rest ∧
    c.codec.stepFrame = .done (.error (.ofFailure failure)) codec ∧
      (failure.cause = .timedOut ∨ failure.cause = .wouldBlock)

theorem FailsLate.queue_ne_nil (h : c.FailsLate) : c.codec.inbox.queue ≠ [] := by
  obtain ⟨failure, rest, codec, hq, -⟩ := h
  rw [hq]
  exact List.cons_ne_nil _ _

/-- The close frame of an idle connection is written when its wait for a frame is over, when a read
fails late, or when it answers a close frame that says the same. -/
theorem spares_of_step? (h : c.step? = some next) :
    c.Spares next ∨ ∃ deadline, c.phase = .awaitingFrame deadline ∧
      (c.isDue deadline = true ∨ c.FailsLate ∨
        ∃ frame codec, c.codec.stepFrame = .done (.ok frame) codec ∧ EchoesIdle frame) := by
  cases hphase : c.phase with
  | accepted =>
    simp only [step?, hphase] at h
    cases h
    exact .inl (.refl c)
  | awaitingHead limit =>
    simp only [step?, hphase] at h
    refine .inl ?_
    cases headStep h with
    | stop => exact spares_finish ..
    | @found head codec => exact spares_handshake { c with codec } head
    | @failed e codec => exact spares_reject { c with codec } e
    | more => exact .refl c
    | late => exact spares_reject ..
  | awaitingFrame limit =>
    simp only [step?, hphase] at h
    cases frameStep h with
    | stop => exact .inl (spares_goAway c)
    | @found frame codec _ read =>
      by_cases hechoes : EchoesIdle frame
      · exact .inr ⟨limit, rfl, .inr (.inr ⟨frame, codec, read, hechoes⟩)⟩
      · exact .inl (spares_dispatch { c with codec } hechoes)
    | @timedOut e codec _ read timeout =>
      rcases Codec.step_error read with ⟨hrefused, -⟩ | ⟨-, failure, rest, hq, rfl, -⟩ |
        ⟨-, -, -, rfl, -⟩
      · rw [(isFault_of_scanFrame hrefused).kind_ne.2] at timeout
        cases timeout
      · refine .inr ⟨limit, rfl, .inr (.inl ⟨failure, rest, codec, hq, read, ?_⟩)⟩
        unfold Error.ofFailure at timeout
        cases hcause : failure.cause <;> simp [hcause, Error.isTimeout] at timeout ⊢
      · cases timeout
    | @failed e codec => exact .inl (spares_fail { c with codec } e)
    | more => exact .inl (.refl c)
    | late _ _ due => exact .inr ⟨limit, rfl, .inl due⟩
  | draining limit verdict =>
    simp only [step?, hphase] at h
    refine .inl ?_
    cases drainStep h with
    | @closed frame codec => exact spares_drained { c with codec } verdict
    | passed => exact .refl c
    | @failed e codec => exact spares_drained { c with codec } verdict
    | more => exact .refl c
    | late => exact spares_drained c verdict
  | finished => simp [step?, hphase] at h

/-! ## Runs -/

theorem Counts.isDue {past deadline : Option Nat} (h : c.Counts past)
    (hp : c.phase = .awaitingFrame deadline) (hdue : c.isDue deadline = true) :
    ∃ limit time, c.config.timeouts.idle = some limit ∧ past = some time ∧
      time + limit ≤ c.now := by
  obtain ⟨time, hpast, rfl⟩ := h deadline hp
  cases hidle : c.config.timeouts.idle with
  | none =>
    rw [hidle] at hdue
    cases hdue
  | some limit =>
    rw [hidle] at hdue
    exact ⟨limit, time, rfl, hpast, of_decide_eq_true hdue⟩

/-- In any run, a step writes the close frame of an idle connection only if the connection is open,
and if there is a limit and it has not heard from its peer for so long, or if a read fails late, or
in answer to a close frame that says the same. -/
theorem idle_of_parting (config : Config) (application : Application) (peer : Address)
    (admission : Admission.Controller) (permit : Option Admission.Controller.Permit)
    (now admissionTime : Nat) (moves : List Move) (done : List Effect) :
    let start := new config application peer admission permit now admissionTime
    let c := start.after moves
    c.advance.effects = c.effects ++ done → idleParting ∈ writesOf done →
      c.state = .open ∧
        ((∃ limit time, config.timeouts.idle = some limit ∧
          start.lastHeard none moves = some time ∧ time + limit ≤ c.now) ∨
        c.FailsLate ∨
          ∃ frame codec, c.codec.stepFrame = .done (.ok frame) codec ∧ EchoesIdle frame) := by
  intro start c heffects hmem
  have hconfig : c.config = config := (origin_after start moves).1
  have hstart : start.Counts none :=
    counts_new config application peer admission permit now admissionTime
  have hcounts : c.Counts (start.lastHeard none moves) := hstart.after moves
  -- what the step has done is determined, so it cannot have spared the peer
  have hwrites : ¬ c.Spares c.advance := by
    rintro ⟨made, hmade, hspared⟩
    obtain rfl : done = made := List.append_cancel_left (heffects.symm.trans hmade)
    exact hspared hmem
  have hstep : c.step? = some c.advance := by
    unfold advance at hwrites ⊢
    cases hs : c.step? with
    | none =>
      rw [hs] at hwrites
      exact absurd (.refl c) hwrites
    | some next => rfl
  have hcourse : c.OnCourse := (onCourse_new ..).after moves
  rcases spares_of_step? hstep with hspares | ⟨deadline, hp, hcause⟩
  · exact absurd hspares hwrites
  · refine ⟨hcourse.state_of_awaitingFrame hp, ?_⟩
    rcases hcause with hdue | hrest
    · rw [← hconfig]
      exact .inl (hcounts.isDue hp hdue)
    · exact .inr hrest

/-- A client is let in and says nothing for a second. -/
theorem idle_of_parting_silent :
    let o := Opening.hasty
    let start := new o.config o.application o.peer (.ofConfig o.config) none 0 0
    let moves := o.arrival ++ [.event (.advance 1000)]
    let done := [.enter .closing, .write idleParting]
    (start.after moves).advance.effects = (start.after moves).effects ++ done ∧
      ∃ time, start.lastHeard none moves = some time ∧
        time + 1000 ≤ (start.after moves).now := by
  intro o start moves done
  have hc : start.after moves = (o.entered (.ofConfig o.config) 0 0).apply (.advance 1000) := by
    rw [after_append, o.after_arrival]
    rfl
  have hrun : (start.after moves).advance.effects = (start.after moves).effects ++ done := by
    rw [hc]
    decide +kernel
  have hqueue : (start.after moves).codec.inbox.queue = [] := by
    rw [hc]
    rfl
  have hbuffer : (start.after moves).codec.buffer = [] := by
    rw [hc]
    rfl
  refine ⟨hrun, ?_⟩
  rcases (idle_of_parting o.config o.application o.peer (.ofConfig o.config) none 0 0 moves done hrun
    (by decide)).2 with ⟨limit, time, hidle, hheard, hlate⟩ | hfails | ⟨frame, codec, hread, -⟩
  · obtain rfl : 1000 = limit := Option.some.inj hidle
    exact ⟨time, hheard, hlate⟩
  · replace hfails : (start.after moves).FailsLate := hfails
    exact absurd hqueue hfails.queue_ne_nil
  · exact absurd hbuffer (Codec.buffer_ne_nil_of_stepFrame hread)

/-- Without a limit no connection is idle for too long, yet one whose read fails late is closed as
if it were. -/
theorem not_forall_idle_of_parting :
    ¬ ∀ (config : Config) (application : Application) (peer : Address) (admission : Admission.Controller)
      (permit : Option Admission.Controller.Permit) (now admissionTime : Nat) (moves : List Move)
      (done : List Effect),
      let start := new config application peer admission permit now admissionTime
      let c := start.after moves
      c.advance.effects = c.effects ++ done → idleParting ∈ writesOf done →
        ∃ limit time, config.timeouts.idle = some limit ∧
          start.lastHeard none moves = some time ∧ time + limit ≤ c.now := by
  intro h
  let o := Opening.greeting
  let failure : IoFailure := ⟨.timedOut, "timed out", none⟩
  let start := new o.config o.application o.peer (.ofConfig o.config) none 0 0
  let moves := o.arrival ++ [.event (.failRead failure)]
  let done : List Effect := [.enter .closing, .write idleParting]
  have hrun : (start.after moves).advance.effects = (start.after moves).effects ++ done := by
    have hc : start.after moves = (o.entered (.ofConfig o.config) 0 0).apply (.failRead failure) := by
      rw [after_append, o.after_arrival]
      rfl
    rw [hc]
    decide +kernel
  obtain ⟨limit, -, hidle, -⟩ := h o.config o.application o.peer (.ofConfig o.config) none 0 0 moves
    done hrun (by decide)
  cases hidle

end Connection
end WebSocket
