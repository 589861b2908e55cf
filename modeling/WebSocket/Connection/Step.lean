import WebSocket.Connection

/-
What a step of a connection can be, by what the connection waits for.  Each kind of step is named,
with what it was that the connection found; nothing else happens in a step (`headStep`, `frameStep`
and `drainStep`).
-/
namespace WebSocket
namespace Connection

/-- The steps of a connection that awaits the head of the request. -/
inductive HeadStep (c : Connection) (deadline : Option Nat) : Connection → Prop
  | stop (stopping : c.stopping = true) : HeadStep c deadline (c.finish none)
  | found {head : Bytes} {codec : Codec} (running : c.stopping = false)
    (read : c.codec.stepHead = .done (.ok head) codec) :
    HeadStep c deadline (handshake { c with codec } head)
  | failed {e : Error} {codec : Codec} (running : c.stopping = false)
    (read : c.codec.stepHead = .done (.error e) codec) :
    HeadStep c deadline (reject { c with codec } e)
  | more {codec : Codec} (running : c.stopping = false) (read : c.codec.stepHead = .more codec) :
    HeadStep c deadline { c with codec }
  | late (running : c.stopping = false) (read : c.codec.stepHead = .waiting)
    (due : c.isDue deadline = true) : HeadStep c deadline (c.reject c.headTimeout)

/-- The steps of a connection that awaits a frame. -/
inductive FrameStep (c : Connection) (deadline : Option Nat) : Connection → Prop
  | stop (stopping : c.stopping = true) : FrameStep c deadline c.goAway
  | found {frame : Frame} {codec : Codec} (running : c.stopping = false)
    (read : c.codec.stepFrame = .done (.ok frame) codec) :
    FrameStep c deadline (dispatch { c with codec } frame)
  | timedOut {e : Error} {codec : Codec} (running : c.stopping = false)
    (read : c.codec.stepFrame = .done (.error e) codec) (timeout : e.isTimeout = true) :
    FrameStep c deadline (expire { c with codec } e)
  | failed {e : Error} {codec : Codec} (running : c.stopping = false)
    (read : c.codec.stepFrame = .done (.error e) codec) (timeout : e.isTimeout = false) :
    FrameStep c deadline (fail { c with codec } e)
  | more {codec : Codec} (running : c.stopping = false) (read : c.codec.stepFrame = .more codec) :
    FrameStep c deadline { c with codec }
  | late (running : c.stopping = false) (read : c.codec.stepFrame = .waiting)
    (due : c.isDue deadline = true) : FrameStep c deadline (c.expire c.idleTimeout)

/-- The steps of a connection that drains. -/
inductive DrainStep (c : Connection) (deadline : Nat) (verdict : Option Error) :
    Connection → Prop
  | closed {frame : Frame} {codec : Codec} (read : c.codec.stepFrame = .done (.ok frame) codec)
    (close : frame.opcode = .close) :
    DrainStep c deadline verdict (drained { c with codec } verdict)
  | passed {frame : Frame} {codec : Codec} (read : c.codec.stepFrame = .done (.ok frame) codec)
    (close : frame.opcode ≠ .close) : DrainStep c deadline verdict { c with codec }
  | failed {e : Error} {codec : Codec} (read : c.codec.stepFrame = .done (.error e) codec) :
    DrainStep c deadline verdict (drained { c with codec } verdict)
  | more {codec : Codec} (read : c.codec.stepFrame = .more codec) :
    DrainStep c deadline verdict { c with codec }
  | late (read : c.codec.stepFrame = .waiting) (due : c.isDue (some deadline) = true) :
    DrainStep c deadline verdict (c.drained verdict)

variable {c next : Connection}

theorem headStep {deadline : Option Nat} (h : c.stepHead? deadline = some next) :
    HeadStep c deadline next := by
  unfold stepHead? at h
  by_cases hstop : c.stopping = true
  · rw [if_pos hstop] at h
    cases h
    exact .stop hstop
  · rw [if_neg hstop] at h
    have hrun : c.stopping = false := Bool.not_eq_true _ ▸ hstop
    split at h
    · rename_i hread
      cases h
      exact .found hrun hread
    · rename_i hread
      cases h
      exact .failed hrun hread
    · rename_i hread
      cases h
      exact .more hrun hread
    · rename_i hread
      split at h <;> cases h
      exact .late hrun hread ‹_›

theorem frameStep {deadline : Option Nat} (h : c.stepFrame? deadline = some next) :
    FrameStep c deadline next := by
  unfold stepFrame? at h
  by_cases hstop : c.stopping = true
  · rw [if_pos hstop] at h
    cases h
    exact .stop hstop
  · rw [if_neg hstop] at h
    have hrun : c.stopping = false := Bool.not_eq_true _ ▸ hstop
    split at h
    · rename_i hread
      cases h
      exact .found hrun hread
    · rename_i e codec hread
      cases h
      by_cases htimeout : e.isTimeout = true
      · rw [if_pos htimeout]
        exact .timedOut hrun hread htimeout
      · rw [if_neg htimeout]
        exact .failed hrun hread (Bool.not_eq_true _ ▸ htimeout)
    · rename_i hread
      cases h
      exact .more hrun hread
    · rename_i hread
      split at h <;> cases h
      exact .late hrun hread ‹_›

theorem drainStep {deadline : Nat} {verdict : Option Error}
    (h : c.stepDrain? deadline verdict = some next) : DrainStep c deadline verdict next := by
  unfold stepDrain? at h
  split at h
  · rename_i frame codec hread
    cases h
    by_cases hclose : frame.opcode = .close
    · rw [if_pos hclose]
      exact .closed hread hclose
    · rw [if_neg hclose]
      exact .passed hread hclose
  · rename_i hread
    cases h
    exact .failed hread
  · rename_i hread
    cases h
    exact .more hread
  · rename_i hread
    split at h <;> cases h
    exact .late hread ‹_›

end Connection
end WebSocket
