import WebSocket.Connection.Step

/-
A connection that takes steps comes to wait.  Only reading changes what is left to use, and it
leaves less of it; all else that a step does moves the connection on to a later kind of wait, or
takes an item and stays.  So every step leaves less work (`work_lt_of_step?`), and a connection
that has settled has no step to take (`step?_settle`).
-/
namespace WebSocket

@[simp] theorem Phase.rank_finished : Phase.finished.rank = 0 := rfl

namespace Connection

/-! ## The ground -/

/-- What a connection finds and does not change, but for reading. -/
structure Ground where
  config : Config
  application : Application
  peer : Address
  codec : Codec
  writeFailure : Option IoFailure
  flushFailure : Option IoFailure
  stopping : Bool
  now : Nat
  admissionTime : Nat

/-- What a connection stands on. -/
def ground (c : Connection) : Ground :=
  { config := c.config
    application := c.application
    peer := c.peer
    codec := c.codec
    writeFailure := c.writeFailure
    flushFailure := c.flushFailure
    stopping := c.stopping
    now := c.now
    admissionTime := c.admissionTime }

@[simp] theorem ground_emit (c : Connection) (e : Effect) : (c.emit e).ground = c.ground := rfl

@[simp] theorem ground_enter (c : Connection) (s : ConnectionState) :
    (c.enter s).ground = c.ground := rfl

@[simp] theorem ground_notify (c : Connection) (call : Call) :
    (c.notify call).ground = c.ground := rfl

@[simp] theorem ground_flush (c : Connection) : c.flush.1.ground = c.ground := by
  unfold flush
  split <;> rfl

@[simp] theorem ground_write (c : Connection) (data : Bytes) :
    (c.write data).1.ground = c.ground := by
  unfold write
  split <;> simp

theorem ground_of_write {c next : Connection} {data : Bytes} {e : Option Error}
    (h : c.write data = (next, e)) : next.ground = c.ground := by
  rw [← ground_write c data, h]

@[simp] theorem ground_send (c : Connection) (frame : Frame) :
    (c.send frame).1.ground = c.ground :=
  ground_write c _

theorem ground_of_send {c next : Connection} {frame : Frame} {e : Option Error}
    (h : c.send frame = (next, e)) : next.ground = c.ground :=
  ground_of_write h

@[simp] theorem ground_sendAnyway (c : Connection) (frame : Frame) :
    (c.sendAnyway frame).ground = c.ground :=
  ground_write c _

@[simp] theorem ground_releasePermit (c : Connection) : c.releasePermit.ground = c.ground := by
  unfold releasePermit
  split <;> rfl

@[simp] theorem ground_report (c : Connection) (verdict : Option Error) :
    (c.report verdict).ground = c.ground := by
  unfold report
  split
  · split <;> rfl
  · rfl

@[simp] theorem ground_farewell (c : Connection) : c.farewell.ground = c.ground := by
  unfold farewell
  split <;> rfl

@[simp] theorem ground_finish (c : Connection) (verdict : Option Error) :
    (c.finish verdict).ground = c.ground := by
  show (farewell _).ground = c.ground
  simp

@[simp] theorem ground_reject (c : Connection) (e : Error) : (c.reject e).ground = c.ground := by
  unfold reject
  split <;> simp

@[simp] theorem ground_closeWith (c : Connection) (code : CloseCode) (reason : String)
    (verdict : Option Error) (onFailure : Error → Option Error) :
    (c.closeWith code reason verdict onFailure).ground = c.ground := by
  unfold closeWith
  split
  · split <;> rename_i h
    · rw [ground_finish, ground_of_send h]
      rfl
    · have hg := ground_of_send h
      exact hg
  · simp

@[simp] theorem ground_fail (c : Connection) (e : Error) : (c.fail e).ground = c.ground := by
  unfold fail
  split <;> simp

@[simp] theorem ground_goAway (c : Connection) : c.goAway.ground = c.ground :=
  ground_closeWith ..

@[simp] theorem ground_expire (c : Connection) (e : Error) : (c.expire e).ground = c.ground :=
  ground_closeWith ..

@[simp] theorem ground_reidentify (c : Connection) (request : Upgrade.Request) :
    (c.reidentify request).1.ground = c.ground := by
  unfold reidentify
  simp only
  split
  · rfl
  · split
    · rfl
    · split <;> rfl

theorem ground_of_reidentify {c next : Connection} {request : Upgrade.Request} {e : Option Error}
    (h : c.reidentify request = (next, e)) : next.ground = c.ground := by
  rw [← ground_reidentify c request, h]

@[simp] theorem ground_accept (c : Connection) (request : Upgrade.Request) :
    (c.accept request).ground = c.ground := by
  unfold accept
  split <;> rename_i h
  · rw [ground_finish, ground_of_write h]
  · have hg := ground_of_write h
    exact hg

@[simp] theorem ground_handshake (c : Connection) (head : Bytes) :
    (c.handshake head).ground = c.ground := by
  unfold handshake
  simp only
  split
  · simp
  · split <;> rename_i h <;> simpa using ground_of_reidentify h

@[simp] theorem ground_reply (c : Connection) (frame : Option Frame) :
    (c.reply frame).ground = c.ground := by
  unfold reply
  split
  · rfl
  · split <;> rename_i h
    · rw [ground_finish, ground_of_send h]
    · have hg := ground_of_send h
      exact hg

@[simp] theorem ground_answer (c : Connection) (message : Message) :
    (c.answer message).ground = c.ground := by
  unfold answer
  split
  · simp
  · simp
  · simp
  · rfl
  · simp

@[simp] theorem ground_answerBadClose (c : Connection) (e : Error) :
    (c.answerBadClose e).ground = c.ground := by
  simp [answerBadClose]

@[simp] theorem ground_dispatch (c : Connection) (frame : Frame) :
    (c.dispatch frame).ground = c.ground := by
  unfold dispatch
  split
  · simp
  · split <;> simp

@[simp] theorem ground_drained (c : Connection) (verdict : Option Error) :
    (c.drained verdict).ground = c.ground := by
  simp [drained]

/-! ## What is waited for -/

@[simp] theorem phase_finish (c : Connection) (verdict : Option Error) :
    (c.finish verdict).phase = .finished := rfl

@[simp] theorem phase_reject (c : Connection) (e : Error) : (c.reject e).phase = .finished := by
  unfold reject
  split <;> rfl

@[simp] theorem phase_drained (c : Connection) (verdict : Option Error) :
    (c.drained verdict).phase = .finished := rfl

/-- After its own close frame a connection waits for the peer's at most. -/
theorem rank_closeWith_le (c : Connection) (code : CloseCode) (reason : String)
    (verdict : Option Error) (onFailure : Error → Option Error) :
    (c.closeWith code reason verdict onFailure).phase.rank ≤ 1 := by
  unfold closeWith
  split
  · split <;> simp [Phase.rank]
  · simp [Phase.rank]

theorem rank_goAway_le (c : Connection) : c.goAway.phase.rank ≤ 1 :=
  rank_closeWith_le ..

theorem rank_expire_le (c : Connection) (e : Error) : (c.expire e).phase.rank ≤ 1 :=
  rank_closeWith_le ..

theorem rank_fail_le (c : Connection) (e : Error) : (c.fail e).phase.rank ≤ 1 := by
  unfold fail
  split
  · exact rank_closeWith_le ..
  · simp [Phase.rank]

theorem rank_accept_le (c : Connection) (request : Upgrade.Request) :
    (c.accept request).phase.rank ≤ 2 := by
  unfold accept
  split <;> simp [Phase.rank, awaitFrame]

/-- After the head a connection waits for a frame at most. -/
theorem rank_handshake_le (c : Connection) (head : Bytes) : (c.handshake head).phase.rank ≤ 2 := by
  unfold handshake
  simp only
  split
  · simp [Phase.rank]
  · split
    · simp [Phase.rank]
    · exact rank_accept_le ..

theorem rank_reply_le (c : Connection) (frame : Option Frame) :
    (c.reply frame).phase.rank ≤ 2 := by
  unfold reply
  split
  · simp [Phase.rank, awaitFrame]
  · split <;> simp [Phase.rank, awaitFrame]

theorem rank_answer_le (c : Connection) (message : Message) :
    (c.answer message).phase.rank ≤ 2 := by
  unfold answer
  split
  · exact rank_reply_le ..
  · exact rank_reply_le ..
  · exact rank_reply_le ..
  · simp [Phase.rank, awaitFrame]
  · simp [Phase.rank]

/-- After a frame a connection waits for a frame at most. -/
theorem rank_dispatch_le (c : Connection) (frame : Frame) :
    (c.dispatch frame).phase.rank ≤ 2 := by
  unfold dispatch
  split
  · exact rank_answer_le ..
  · split
    · simp [answerBadClose, Phase.rank]
    · exact Nat.le_succ_of_le (rank_fail_le ..)

/-! ## Steps -/

/-- There is less work when less is left to read and the wait is of no earlier kind. -/
theorem work_lt_of_load_lt {c next : Connection} {codec : Codec}
    (hg : next.ground = ground { c with codec }) (hl : codec.load < c.codec.load)
    (hr : next.phase.rank ≤ c.phase.rank) : next.work < c.work := by
  have hcodec : next.codec = codec := congrArg Ground.codec hg
  rw [work, work, hcodec]
  exact Nat.add_lt_add_of_lt_of_le hl hr

/-- There is less work when the wait is of a later kind and no more is left to read. -/
theorem work_lt_of_rank_lt {c next : Connection} {codec : Codec}
    (hg : next.ground = ground { c with codec }) (hl : codec.load ≤ c.codec.load)
    (hr : next.phase.rank < c.phase.rank) : next.work < c.work := by
  have hcodec : next.codec = codec := congrArg Ground.codec hg
  rw [work, work, hcodec]
  exact Nat.add_lt_add_of_le_of_lt hl hr

theorem HeadStep.work_lt {c next : Connection} {deadline : Option Nat}
    (hp : c.phase = .awaitingHead deadline) (h : HeadStep c deadline next) :
    next.work < c.work := by
  have hw : c.phase.rank = 3 := by rw [hp, Phase.rank]
  cases h with
  | stop => exact work_lt_of_rank_lt (ground_finish ..) (Nat.le_refl _) (by simp [hw])
  | @found head codec _ read =>
    have hl := Codec.load_lt_of_step_ok (fun _ _ => length_lt_of_scanHead) read
    have hr := rank_handshake_le { c with codec } head
    exact work_lt_of_load_lt (ground_handshake ..) hl (by omega)
  | failed _ read =>
    exact work_lt_of_rank_lt (ground_reject ..) (Codec.load_le_of_step_error read) (by simp [hw])
  | more _ read => exact work_lt_of_load_lt rfl (Codec.load_lt_of_step_more read) (Nat.le_refl _)
  | late => exact work_lt_of_rank_lt (ground_reject ..) (Nat.le_refl _) (by simp [hw])

theorem FrameStep.work_lt {c next : Connection} {deadline : Option Nat}
    (hp : c.phase = .awaitingFrame deadline) (h : FrameStep c deadline next) :
    next.work < c.work := by
  have hw : c.phase.rank = 2 := by rw [hp, Phase.rank]
  cases h with
  | stop =>
    have hr := rank_goAway_le c
    exact work_lt_of_rank_lt (ground_goAway c) (Nat.le_refl _) (by omega)
  | @found frame codec _ read =>
    have hl := Codec.load_lt_of_step_ok (fun _ _ => length_lt_of_scanFrame) read
    have hr := rank_dispatch_le { c with codec } frame
    exact work_lt_of_load_lt (ground_dispatch ..) hl (by omega)
  | @timedOut e codec _ read =>
    have hr := rank_expire_le { c with codec } e
    exact work_lt_of_rank_lt (ground_expire ..) (Codec.load_le_of_step_error read) (by omega)
  | @failed e codec _ read =>
    have hr := rank_fail_le { c with codec } e
    exact work_lt_of_rank_lt (ground_fail ..) (Codec.load_le_of_step_error read) (by omega)
  | more _ read => exact work_lt_of_load_lt rfl (Codec.load_lt_of_step_more read) (Nat.le_refl _)
  | late =>
    have hr := rank_expire_le c c.idleTimeout
    exact work_lt_of_rank_lt (ground_expire ..) (Nat.le_refl _) (by omega)

theorem DrainStep.work_lt {c next : Connection} {deadline : Nat} {verdict : Option Error}
    (hp : c.phase = .draining deadline verdict) (h : DrainStep c deadline verdict next) :
    next.work < c.work := by
  have hw : c.phase.rank = 1 := by rw [hp, Phase.rank]
  cases h with
  | closed read =>
    have hl := Codec.load_lt_of_step_ok (fun _ _ => length_lt_of_scanFrame) read
    exact work_lt_of_load_lt (ground_drained ..) hl (by simp)
  | passed read =>
    have hl := Codec.load_lt_of_step_ok (fun _ _ => length_lt_of_scanFrame) read
    exact work_lt_of_load_lt rfl hl (Nat.le_refl _)
  | failed read =>
    exact work_lt_of_rank_lt (ground_drained ..) (Codec.load_le_of_step_error read) (by simp [hw])
  | more read => exact work_lt_of_load_lt rfl (Codec.load_lt_of_step_more read) (Nat.le_refl _)
  | late => exact work_lt_of_rank_lt (ground_drained ..) (Nat.le_refl _) (by simp [hw])

/-- Every step leaves less work. -/
theorem work_lt_of_step? {c next : Connection} (h : c.step? = some next) :
    next.work < c.work := by
  unfold step? at h
  split at h
  · rename_i hp
    cases h
    exact work_lt_of_rank_lt rfl (Nat.le_refl _) (by simp [awaitHead, hp, Phase.rank])
  · rename_i hp
    exact (headStep h).work_lt hp
  · rename_i hp
    exact (frameStep h).work_lt hp
  · rename_i hp
    exact (drainStep h).work_lt hp
  · simp at h

/-- No step leads back to an earlier kind of wait. -/
theorem rank_le_of_step? {c next : Connection} (h : c.step? = some next) :
    next.phase.rank ≤ c.phase.rank := by
  unfold step? at h
  split at h
  · rename_i hp
    cases h
    simp [awaitHead, hp, Phase.rank]
  · rename_i hp
    rw [hp, Phase.rank]
    cases headStep h with
    | stop => simp
    | found => exact Nat.le_succ_of_le (rank_handshake_le ..)
    | failed => simp
    | more => simp [hp, Phase.rank]
    | late => simp
  · rename_i hp
    rw [hp, Phase.rank]
    cases frameStep h with
    | stop => exact Nat.le_succ_of_le (rank_goAway_le c)
    | found => exact rank_dispatch_le ..
    | timedOut => exact Nat.le_succ_of_le (rank_expire_le ..)
    | failed => exact Nat.le_succ_of_le (rank_fail_le ..)
    | more => simp [hp, Phase.rank]
    | late => exact Nat.le_succ_of_le (rank_expire_le ..)
  · rename_i hp
    cases drainStep h <;> simp [hp, Phase.rank]
  · cases h

/-- A step changes nothing of the ground, but that it may read on. -/
theorem exists_ground_of_step? {c next : Connection} (h : c.step? = some next) :
    ∃ codec, c.codec.Reads codec ∧ next.ground = ground { c with codec } := by
  have hstay := Codec.Reads.refl c.codec
  unfold step? at h
  split at h
  · cases h
    exact ⟨_, hstay, rfl⟩
  · cases headStep h with
    | stop => exact ⟨_, hstay, ground_finish ..⟩
    | found _ read => exact ⟨_, Codec.reads_of_step_done read, ground_handshake ..⟩
    | failed _ read => exact ⟨_, Codec.reads_of_step_done read, ground_reject ..⟩
    | more _ read => exact ⟨_, Codec.reads_of_step_more read, rfl⟩
    | late => exact ⟨_, hstay, ground_reject ..⟩
  · cases frameStep h with
    | stop => exact ⟨_, hstay, ground_goAway c⟩
    | found _ read => exact ⟨_, Codec.reads_of_step_done read, ground_dispatch ..⟩
    | timedOut _ read => exact ⟨_, Codec.reads_of_step_done read, ground_expire ..⟩
    | failed _ read => exact ⟨_, Codec.reads_of_step_done read, ground_fail ..⟩
    | more _ read => exact ⟨_, Codec.reads_of_step_more read, rfl⟩
    | late => exact ⟨_, hstay, ground_expire ..⟩
  · cases drainStep h with
    | closed read => exact ⟨_, Codec.reads_of_step_done read, ground_drained ..⟩
    | passed read => exact ⟨_, Codec.reads_of_step_done read, rfl⟩
    | failed read => exact ⟨_, Codec.reads_of_step_done read, ground_drained ..⟩
    | more read => exact ⟨_, Codec.reads_of_step_more read, rfl⟩
    | late => exact ⟨_, hstay, ground_drained ..⟩
  · cases h

/-- As many steps as there is work are enough. -/
theorem step?_run {fuel : Nat} {c : Connection} (h : c.work ≤ fuel) :
    (run fuel c).step? = none := by
  induction fuel generalizing c with
  | zero =>
    cases hs : c.step? with
    | none => exact hs
    | some next =>
      have := work_lt_of_step? hs
      omega
  | succ fuel ih =>
    unfold run
    cases hs : c.step? with
    | none => exact hs
    | some next =>
      have := work_lt_of_step? hs
      exact ih (by omega)

/-- A connection that has settled waits. -/
theorem step?_settle (c : Connection) : c.settle.step? = none :=
  step?_run (Nat.le_refl _)

end Connection
end WebSocket
