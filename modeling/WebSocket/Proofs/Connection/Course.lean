import WebSocket.Connection.Run
import WebSocket.Proofs.Message.RoundTrip

/-
The course of a connection: what it does, in which order.  A connection passes through stages, and
each stage allows certain effects, which lead to the next (`Stage.Does`).  Whatever happens
outside, the log of a connection is a course, and what the connection waits for tells the stage
that it is at (`Connection.OnCourse`).  What holds of every course thus holds of every run.
-/
namespace WebSocket

/-- How far a connection has come.  Once the request has been accepted, the stage tells the client
that the application knows of, if any. -/
inductive Stage
  /-- Nothing has been done yet. -/
  | silent
  /-- The head of the request is there. -/
  | judging
  /-- The request has been refused. -/
  | refused
  /-- The request has been accepted, on behalf of the client. -/
  | accepted (client : String)
  /-- The acceptance has been flushed. -/
  | opened (client : String)
  /-- The application has been told of the client, and messages are answered. -/
  | serving (client : String)
  /-- No more messages are answered. -/
  | closing (client : String)
  /-- A close frame has been written. -/
  | parted (client : String)
  /-- Nothing more will be written. -/
  | left (known : Option String)
  /-- The application has been told of an error. -/
  | reported (known : Option String)
  /-- The connection has been shut. -/
  | shut (known : Option String)
  /-- The permit has been given back. -/
  | released (known : Option String)
  /-- The application has been told of the end. -/
  | gone (client : String)

namespace Stage

/-- The client that the application knows of. -/
def known : Stage → Option String
  | .silent => none
  | .judging => none
  | .refused => none
  | .accepted _ => none
  | .opened _ => none
  | .serving client => some client
  | .closing client => some client
  | .parted client => some client
  | .left known => known
  | .reported known => known
  | .shut known => known
  | .released known => known
  | .gone client => some client

/-- Whether a connection may end from here on. -/
def MayEnd : Stage → Prop
  | .accepted _ => False
  | .opened _ => False
  | .reported _ => False
  | .shut _ => False
  | .released _ => False
  | .gone _ => False
  | _ => True

/-- Whether a connection may end from here on because a flush fails.  Of an acceptance that has been
written this is the only end. -/
def MayFail (s : Stage) : Prop :=
  s.MayEnd ∨ ∃ client, s = .accepted client

/-- Whether all has been done: a client that the application knows of has been seen off. -/
def IsOver : Stage → Prop
  | .shut known => known = none
  | .released known => known = none
  | .gone _ => True
  | _ => False

/-- The frames that answer messages: replies, and pongs. -/
inductive Answers (application : Application) : Frame → Prop
  | text {calls : List Call} {client text reply : String}
    (h : (application.after calls).onMessage client text = some reply) :
    Answers application (Frame.text reply)
  | binary {calls : List Call} {client : String} {data reply : Bytes}
    (h : (application.after calls).onBinary client data = some reply) :
    Answers application (Frame.binary reply)
  | pong {data : Bytes} (h : data.length ≤ Frame.maxControlPayload) :
    Answers application (Frame.pong data)

section

variable (config : Config) (application : Application) (peer : Address)

/-- What a connection may do at a stage, and the stage that this leads to. -/
inductive Does : Stage → Effect → Stage → Prop
  | judge : Does .silent (.enter .handshaking) .judging
  | transfer {source target : String} {decision : Admission.Decision} :
    Does .judging (.transfer source target decision) .judging
  | refuse {s : Stage} {status : Http.Status} (hs : s = .silent ∨ s = .judging)
    (h : 400 ≤ status.code) : Does s (.write status.refusalBytes) .refused
  | accept {head : Bytes} {request : Upgrade.Request} (h : config.policy.judge head = .ok request) :
    Does .judging (.write (Bytes.ofText request.acceptResponse))
      (.accepted (Http.identify peer request.headers))
  | open {client : String} :
    Does (.accepted client) (.enter .open) (.opened client)
  | connect {client : String} :
    Does (.opened client) (.call (.connect client)) (.serving client)
  | message {client text : String} :
    Does (.serving client) (.call (.message client text)) (.serving client)
  | binary {client : String} {data : Bytes} :
    Does (.serving client) (.call (.binary client data)) (.serving client)
  | answer {client : String} {frame : Frame} (h : Answers application frame) :
    Does (.serving client) (.write frame.encode) (.serving client)
  | part {client : String} :
    Does (.serving client) (.enter .closing) (.closing client)
  | close {client : String} {content : Option CloseFrame} (h : (Message.close content).Orderly) :
    Does (.closing client) (.write (Message.close content).toFrame.encode)
      (.parted client)
  | writeFailed {s : Stage} {data : Bytes} (h : s.MayEnd) :
    Does s (.writeFailed data) (.left s.known)
  | flushFailed {s : Stage} (h : s.MayFail) : Does s .flushFailed (.left s.known)
  | leave {s : Stage} (h : s.MayEnd) : Does s (.enter .closed) (.left s.known)
  | report {s : Stage} {client : String} {e : Error} (h : s.MayEnd)
    (hc : ∀ known, s.known = some known → client = known) :
    Does s (.call (.error client e)) (.reported s.known)
  | leaveReported {known : Option String} :
    Does (.reported known) (.enter .closed) (.reported known)
  | shut {known : Option String} {s : Stage} (h : s = .left known ∨ s = .reported known) :
    Does s .shut (.shut known)
  | release {known : Option String} {ip : String} :
    Does (.shut known) (.release ip) (.released known)
  | disconnect {client : String} {s : Stage}
    (h : s = .shut (some client) ∨ s = .released (some client)) :
    Does s (.call (.disconnect client)) (.gone client)

/-- The logs that lead through the stages, latest effect first. -/
inductive Course : List Effect → Stage → Prop
  | start : Course [] .silent
  | next {log : List Effect} {s t : Stage} {e : Effect} (h : Course log s)
    (hd : Does config application peer s e t) : Course (e :: log) t

end

end Stage

/-- The state in which a connection waits. -/
def Phase.state : Phase → ConnectionState
  | .accepted => .awaitingRequest
  | .awaitingHead _ => .awaitingRequest
  | .awaitingFrame _ => .open
  | .draining _ _ => .closing
  | .finished => .closed

namespace Connection

/-- The log of a connection leads to a stage. -/
def Follows (c : Connection) (s : Stage) : Prop :=
  Stage.Course c.config c.application c.peer c.log s

/-- The client that the application knows of. -/
def known (c : Connection) : Option String :=
  if c.connected then some c.client else none

/-- What a connection waits for tells the stage that it is at. -/
def IsAt (c : Connection) (s : Stage) : Prop :=
  match c.phase with
  | .accepted => s = .silent ∧ c.state = .awaitingRequest ∧ c.connected = false
  | .awaitingHead _ => s = .silent ∧ c.state = .awaitingRequest ∧ c.connected = false
  | .awaitingFrame _ => s = .serving c.client ∧ c.state = .open ∧ c.connected = true
  | .draining _ _ => s = .parted c.client ∧ c.state = .closing ∧ c.connected = true
  | .finished => s.IsOver ∧ s.known = c.known ∧ c.state = .closed

/-- A connection keeps to the course. -/
def OnCourse (c : Connection) : Prop :=
  ∃ s, c.Follows s ∧ c.IsAt s

variable {c : Connection} {s t : Stage}

theorem Follows.withCodec (h : c.Follows s) (codec : Codec) : Follows { c with codec } s :=
  h

theorem Follows.emit (h : c.Follows s) {e : Effect}
    (hd : s.Does c.config c.application c.peer e t) : (c.emit e).Follows t :=
  .next h hd

theorem Follows.enter (h : c.Follows s) {state : ConnectionState}
    (hd : s.Does c.config c.application c.peer (.enter state) t) : (c.enter state).Follows t :=
  .next h hd

/-! ## Ends -/

theorem known_releasePermit (c : Connection) : c.releasePermit.known = c.known := by
  unfold releasePermit
  cases c.permit <;> rfl

@[simp] theorem state_releasePermit (c : Connection) : c.releasePermit.state = c.state := by
  unfold releasePermit
  cases c.permit <;> rfl

@[simp] theorem state_farewell (c : Connection) : c.farewell.state = c.state := by
  unfold farewell
  split <;> rfl

theorem Follows.releasePermit {known : Option String} (h : c.Follows (.shut known)) :
    c.releasePermit.Follows (.shut known) ∨ c.releasePermit.Follows (.released known) := by
  unfold Connection.releasePermit
  cases c.permit with
  | none => exact .inl h
  | some permit => exact .inr (.next h .release)

/-- A client that the application knows of is seen off. -/
theorem Follows.farewell (h : c.Follows (.shut c.known) ∨ c.Follows (.released c.known)) :
    ∃ t, c.farewell.Follows t ∧ t.IsOver ∧ t.known = c.farewell.known := by
  unfold Connection.farewell
  cases hc : c.connected with
  | false =>
    have hk : c.known = none := by rw [known, hc]; rfl
    rw [hk] at h
    rcases h with h | h
    · exact ⟨_, h, rfl, hk.symm⟩
    · exact ⟨_, h, rfl, hk.symm⟩
  | true =>
    have hk : c.known = some c.client := by rw [known, hc]; rfl
    rw [hk] at h
    rcases h with h | h
    · exact ⟨.gone c.client, h.emit (.disconnect (.inl rfl)), trivial, hk.symm⟩
    · exact ⟨.gone c.client, h.emit (.disconnect (.inr rfl)), trivial, hk.symm⟩

/-- An error is reported or passed over, and the state left. -/
theorem Follows.report (h : c.Follows s) (hs : s.MayEnd) (hk : s.known = c.known)
    (verdict : Option Error) :
    ∃ t, (t = .left c.known ∨ t = .reported c.known) ∧
      ((c.report verdict).enter .closed).Follows t ∧ (c.report verdict).known = c.known := by
  have hleave : (c.enter .closed).Follows (.left c.known) := hk ▸ h.enter (.leave hs)
  cases verdict with
  | none => exact ⟨_, .inl rfl, hleave, rfl⟩
  | some e =>
    by_cases he : e.kind = .peerClosed
    · rw [Connection.report, if_pos he]
      exact ⟨_, .inl rfl, hleave, rfl⟩
    · rw [Connection.report, if_neg he]
      have hclient : ∀ known, s.known = some known → c.client = known := by
        intro client hs
        rw [hk, known] at hs
        by_cases hc : c.connected
        · rw [if_pos hc] at hs
          exact Option.some.inj hs
        · rw [if_neg hc] at hs
          cases hs
      have hreport : (c.notify (.error c.client e)).Follows (.reported c.known) :=
        hk ▸ h.emit (.report hs hclient)
      exact ⟨_, .inr rfl, hreport.enter .leaveReported, rfl⟩

/-- From wherever a connection may end, it ends with all that has to be done. -/
theorem Follows.finish (h : c.Follows s) (hs : s.MayEnd) (hk : s.known = c.known)
    (verdict : Option Error) : (c.finish verdict).OnCourse := by
  obtain ⟨t, ht, hreport, hknown⟩ := h.report hs hk verdict
  have hshut : (((c.report verdict).enter .closed).emit .shut).Follows
      (.shut (((c.report verdict).enter .closed).emit .shut).known) :=
    hreport.emit (.shut (by rw [← hknown] at ht; exact ht))
  have hrelease := hshut.releasePermit
  rw [← known_releasePermit] at hrelease
  obtain ⟨u, hu, hover, huknown⟩ := Follows.farewell hrelease
  refine ⟨u, hu, hover, huknown, ?_⟩
  show (Connection.farewell _).state = ConnectionState.closed
  rw [state_farewell, state_releasePermit]
  rfl

/-! ## Writes -/

/-- A write leads on, or to an end. -/
theorem Follows.write (h : c.Follows s) (hs : s.MayEnd) (ht : t.MayFail) (hk : t.known = s.known)
    {data : Bytes} (hd : s.Does c.config c.application c.peer (.write data) t) :
    (c.write data = (c.emit (.write data), none) ∧ (c.emit (.write data)).Follows t) ∨
      ∃ log e, c.write data = ({ c with log }, some e) ∧
        Follows { c with log } (.left s.known) := by
  rcases c.write_cases data with ⟨-, -, hw⟩ | ⟨failure, -, hw⟩ | ⟨failure, -, -, hw⟩
  · exact .inl ⟨hw, h.emit hd⟩
  · exact .inr ⟨_, _, hw, h.emit (.writeFailed hs)⟩
  · exact .inr ⟨_, _, hw, hk ▸ (h.emit hd).emit (.flushFailed ht)⟩

/-- Every refusal has the status of an error. -/
theorem le_code_of_refusal? {e : Error} {status : Http.Status} (h : c.refusal? e = some status) :
    400 ≤ status.code := by
  have hs : e.status? = some status := by
    unfold refusal? at h
    split at h
    · split at h
      · exact h
      · cases h
    · exact h
  unfold Error.status? at hs
  split at hs <;> cases hs <;> decide

/-- A refusal is answered with a status, or not, and ends the connection. -/
theorem Follows.reject (h : c.Follows s) (hs : s = .silent ∨ s = .judging)
    (hc : c.connected = false) (e : Error) : (c.reject e).OnCourse := by
  have hk : c.known = none := by rw [known, hc]; rfl
  have hend : s.MayEnd ∧ s.known = none := by
    rcases hs with rfl | rfl <;> exact ⟨trivial, rfl⟩
  unfold Connection.reject
  cases hr : c.refusal? e with
  | none => exact h.finish hend.1 (hend.2.trans hk.symm) _
  | some status =>
    have hcode := le_code_of_refusal? hr
    rcases h.write hend.1 (t := .refused) (.inl trivial) hend.2.symm (.refuse hs hcode) with
      ⟨hw, hf⟩ | ⟨log, failure, hw, hf⟩
    · simp only [hw]
      exact hf.finish trivial hk.symm _
    · simp only [hw]
      exact hf.finish trivial (hend.2.trans hk.symm) _

/-! ## Handshake -/

theorem Follows.accept (h : c.Follows .judging) (hc : c.connected = false) (head : Bytes)
    {request : Upgrade.Request} (hr : c.config.policy.judge head = .ok request)
    (hclient : c.client = Http.identify c.peer request.headers) :
    (c.accept request).OnCourse := by
  have hk : c.known = none := by rw [known, hc]; rfl
  unfold Connection.accept
  rcases h.write (t := .accepted _) trivial (.inr ⟨_, rfl⟩) rfl (.accept hr) with
    ⟨hw, hf⟩ | ⟨log, e, hw, hf⟩
  · rw [← hclient] at hf
    simp only [hw]
    exact ⟨.serving c.client, (hf.enter .open).emit .connect, rfl, rfl, rfl⟩
  · simp only [hw]
    exact hf.finish trivial hk.symm _

theorem Follows.handshake (h : c.Follows .silent) (hc : c.connected = false) (head : Bytes) :
    (c.handshake head).OnCourse := by
  have hj : (c.enter .handshaking).Follows .judging := h.enter .judge
  unfold Connection.handshake
  simp only
  split
  · exact hj.reject (.inr rfl) hc _
  · rename_i request hr
    rcases (c.enter .handshaking).reidentify_cases request with ⟨hsame, hre⟩ | ⟨-, hre⟩ |
      ⟨permit, passed, admission, -, -, hre⟩ | ⟨permit, kept, admission, decision, -, -, -, hre⟩ <;>
      simp only [hre]
    · exact hj.accept hc head hr hsame.symm
    · refine Follows.accept ?_ ?_ head ?_ rfl
      · exact hj
      · exact hc
      · exact hr
    · refine Follows.accept ?_ ?_ head ?_ rfl
      · exact hj.emit .transfer
      · exact hc
      · exact hr
    · refine Follows.reject ?_ (.inr rfl) ?_ _
      · exact hj.emit .transfer
      · exact hc

/-! ## Messages -/

/-- A connection that answers messages. -/
structure Serving (c : Connection) : Prop where
  follows : c.Follows (.serving c.client)
  state : c.state = .open
  connected : c.connected = true

theorem Serving.known (h : c.Serving) : c.known = some c.client := by
  rw [Connection.known, h.connected]
  rfl

theorem Serving.withCodec (h : c.Serving) (codec : Codec) : Serving { c with codec } :=
  ⟨h.follows, h.state, h.connected⟩

theorem Serving.awaitFrame (h : c.Serving) : c.awaitFrame.OnCourse :=
  ⟨.serving c.client, h.follows, rfl, h.state, h.connected⟩

theorem Serving.finish (h : c.Serving) (verdict : Option Error) : (c.finish verdict).OnCourse :=
  h.follows.finish trivial h.known.symm verdict

theorem Serving.reply (h : c.Serving) {reply : Option Frame}
    (hr : ∀ frame, reply = some frame → Stage.Answers c.application frame) :
    (c.reply reply).OnCourse := by
  unfold Connection.reply
  cases reply with
  | none => exact h.awaitFrame
  | some frame =>
    have hanswer := hr frame rfl
    rcases h.follows.write (t := .serving c.client) trivial (.inl trivial) rfl (.answer hanswer) with
      ⟨hw, hf⟩ | ⟨log, e, hw, hf⟩
    · simp only [send, hw]
      exact ⟨.serving c.client, hf, rfl, h.state, h.connected⟩
    · simp only [send, hw]
      exact hf.finish trivial h.known.symm _

/-- A close frame is sent, and the peer's is waited for. -/
theorem Serving.closeWith (h : c.Serving) {code : CloseCode} (hcode : code.isValid = true)
    (reason : String) (verdict : Option Error) (onFailure : Error → Option Error) :
    (c.closeWith code reason verdict onFailure).OnCourse := by
  have hpart : (c.enter .closing).Follows (.closing c.client) := h.follows.enter .part
  have hclose : (Message.close (some ⟨code, reason⟩)).Orderly := hcode
  unfold Connection.closeWith
  rw [if_pos (by rw [h.state]; rfl)]
  rcases hpart.write (t := .parted c.client) trivial (.inl trivial) rfl (.close hclose) with
    ⟨hw, hf⟩ | ⟨log, e, hw, hf⟩
  · simp only [send, hw]
    exact ⟨.parted c.client, hf, rfl, rfl, h.connected⟩
  · simp only [send, hw]
    exact hf.finish trivial h.known.symm _

/-- A close frame is answered, as well as that goes, and the connection ends. -/
theorem Serving.part (h : c.Serving) {content : Option CloseFrame}
    (hclose : (Message.close content).Orderly) (verdict : Option Error) :
    ((((c.enter .closing).sendAnyway (Message.close content).toFrame).enter .closed).finish
      verdict).OnCourse := by
  have hpart : (c.enter .closing).Follows (.closing c.client) := h.follows.enter .part
  rcases hpart.write (t := .parted c.client) trivial (.inl trivial) rfl (.close hclose) with
    ⟨hw, hf⟩ | ⟨log, e, hw, hf⟩
  · simp only [sendAnyway, send, hw]
    exact (hf.enter (.leave trivial)).finish trivial h.known.symm _
  · simp only [sendAnyway, send, hw]
    exact (hf.enter (.leave trivial)).finish trivial h.known.symm _

theorem isValid_of_closeCode? {e : Error} {code : CloseCode} (h : e.closeCode? = some code) :
    code.isValid = true := by
  unfold Error.closeCode? at h
  split at h
  · cases h
    decide
  · split at h <;> cases h <;> decide
  · cases h

theorem Serving.fail (h : c.Serving) (e : Error) : (c.fail e).OnCourse := by
  unfold Connection.fail
  cases hc : e.closeCode? with
  | none => exact h.finish _
  | some code => exact h.closeWith (isValid_of_closeCode? hc) ..

theorem Serving.answer (h : c.Serving) {m : Message} (hm : m.Orderly) : (c.answer m).OnCourse := by
  match m with
  | .text content =>
    have hnotify : (c.notify (.message c.client content)).Serving :=
      ⟨h.follows.emit .message, h.state, h.connected⟩
    refine hnotify.reply fun frame hframe => ?_
    obtain ⟨reply, hreply, rfl⟩ := Option.map_eq_some_iff.mp hframe
    exact .text hreply
  | .binary data =>
    have hnotify : (c.notify (.binary c.client data)).Serving :=
      ⟨h.follows.emit .binary, h.state, h.connected⟩
    refine hnotify.reply fun frame hframe => ?_
    obtain ⟨reply, hreply, rfl⟩ := Option.map_eq_some_iff.mp hframe
    exact .binary hreply
  | .ping data =>
    refine h.reply fun frame hframe => ?_
    cases hframe
    exact .pong hm
  | .pong _ => exact h.awaitFrame
  | .close content => exact h.part hm none

/-- A close frame that is out of order is answered with a valid code and no reason. -/
theorem answerBadClose_eq (c : Connection) (e : Error) :
    ∃ code : CloseCode, code.isValid = true ∧ c.answerBadClose e =
      (((c.enter .closing).sendAnyway (Message.close (some ⟨code, ""⟩)).toFrame).enter
        .closed).finish (some e) := by
  have hcode : (e.closeCode?.getD .protocolError).isValid = true := by
    cases hc : e.closeCode? with
    | none => decide
    | some code => exact isValid_of_closeCode? hc
  have hclip : Text.clip Frame.maxCloseReason "" = "" := Text.clip_eq_self (by decide)
  refine ⟨_, hcode, ?_⟩
  rw [Message.toFrame, hclip]
  rfl

theorem Serving.answerBadClose (h : c.Serving) (e : Error) : (c.answerBadClose e).OnCourse := by
  obtain ⟨code, hcode, heq⟩ := c.answerBadClose_eq e
  have hclose : (Message.close (some ⟨code, ""⟩)).Orderly := hcode
  rw [heq]
  exact h.part hclose (some e)

theorem Serving.dispatch (h : c.Serving) (frame : Frame) : (c.dispatch frame).OnCourse := by
  unfold Connection.dispatch
  cases hm : Message.ofFrame frame with
  | ok m => exact h.answer (Message.orderly_of_ofFrame hm)
  | error e =>
    simp only
    split
    · exact h.answerBadClose e
    · exact h.fail e

/-! ## Steps -/

theorem Follows.headStep {next : Connection} {deadline : Option Nat} (h : c.Follows .silent)
    (hc : c.connected = false) (hp : c.phase = .awaitingHead deadline)
    (hstate : c.state = .awaitingRequest) (hs : HeadStep c deadline next) : next.OnCourse := by
  have hk : c.known = none := by rw [known, hc]; rfl
  cases hs with
  | stop => exact h.finish trivial hk.symm _
  | @found head codec => exact (h.withCodec codec).handshake hc head
  | @failed e codec => exact (h.withCodec codec).reject (.inl rfl) hc e
  | more =>
    refine ⟨.silent, h, ?_⟩
    simp only [IsAt, hp]
    exact ⟨trivial, hstate, hc⟩
  | late => exact h.reject (.inl rfl) hc _

theorem Serving.frameStep {next : Connection} {deadline : Option Nat} (h : c.Serving)
    (hp : c.phase = .awaitingFrame deadline) (hs : FrameStep c deadline next) :
    next.OnCourse := by
  cases hs with
  | stop => exact h.closeWith (by decide) ..
  | @found frame codec => exact (h.withCodec codec).dispatch frame
  | @timedOut e codec => exact (h.withCodec codec).closeWith (by decide) ..
  | @failed e codec => exact (h.withCodec codec).fail e
  | more =>
    refine ⟨.serving c.client, h.follows, ?_⟩
    simp only [IsAt, hp]
    exact ⟨trivial, h.state, h.connected⟩
  | late => exact h.closeWith (by decide) ..

theorem Follows.drainStep {next : Connection} {deadline : Nat} {verdict : Option Error}
    (h : c.Follows (.parted c.client)) (hc : c.connected = true) (hstate : c.state = .closing)
    (hp : c.phase = .draining deadline verdict) (hs : DrainStep c deadline verdict next) :
    next.OnCourse := by
  have hk : c.known = some c.client := by rw [known, hc]; rfl
  have hstay : ∀ codec : Codec, OnCourse { c with codec } := by
    intro codec
    refine ⟨.parted c.client, h, ?_⟩
    simp only [IsAt, hp]
    exact ⟨trivial, hstate, hc⟩
  have hend : ∀ codec : Codec, (Connection.drained { c with codec } verdict).OnCourse := by
    intro codec
    have hleft := (h.withCodec codec).enter (.leave trivial)
    exact hleft.finish trivial hk.symm _
  cases hs with
  | closed => exact hend _
  | passed => exact hstay _
  | failed => exact hend _
  | more => exact hstay _
  | late => exact hend c.codec

/-- Every step keeps to the course. -/
theorem OnCourse.step {next : Connection} (h : c.OnCourse) (hs : c.step? = some next) :
    next.OnCourse := by
  obtain ⟨s, hf, hat⟩ := h
  unfold IsAt at hat
  unfold step? at hs
  split at hs
  · rename_i hp
    simp only [hp] at hat
    obtain ⟨rfl, hstate, hc⟩ := hat
    cases hs
    exact ⟨.silent, hf, rfl, hstate, hc⟩
  · rename_i deadline hp
    simp only [hp] at hat
    obtain ⟨rfl, hstate, hc⟩ := hat
    exact hf.headStep hc hp hstate (Connection.headStep hs)
  · rename_i deadline hp
    simp only [hp] at hat
    obtain ⟨rfl, hstate, hc⟩ := hat
    exact Serving.frameStep ⟨hf, hstate, hc⟩ hp (Connection.frameStep hs)
  · rename_i deadline verdict hp
    simp only [hp] at hat
    obtain ⟨rfl, hstate, hc⟩ := hat
    exact hf.drainStep hc hstate hp (Connection.drainStep hs)
  · cases hs

/-- What happens outside does not change the course. -/
theorem OnCourse.of_sameInside {d : Connection} (h : c.OnCourse) (hd : d.SameInside c) :
    d.OnCourse := by
  obtain ⟨s, hf, hat⟩ := h
  refine ⟨s, ?_, ?_⟩
  · rw [Follows, hd.config, hd.application, hd.peer, hd.log]
    exact hf
  · have hk : d.known = c.known := by rw [known, known, hd.connected, hd.client]
    rw [IsAt, hd.phase, hd.state, hd.connected, hd.client, hk]
    exact hat

theorem onCourse_new (config : Config) (application : Application) (peer : Address)
    (admission : Admission.Controller) (permit : Option Admission.Controller.Permit)
    (now admissionTime : Nat) :
    (new config application peer admission permit now admissionTime).OnCourse :=
  ⟨.silent, .start, rfl, rfl, rfl⟩

/-- Whatever happens, a connection keeps to the course. -/
theorem OnCourse.after (h : c.OnCourse) (moves : List Move) : (c.after moves).OnCourse :=
  after_induction (fun _ _ hc hs => hc.step hs)
    (fun c _ hc hm => hc.of_sameInside (sameInside_move hm c)) h moves

theorem OnCourse.state_eq (h : c.OnCourse) : c.state = c.phase.state := by
  obtain ⟨s, -, hat⟩ := h
  unfold IsAt at hat
  cases hp : c.phase <;> simp only [hp] at hat
  · exact hat.2.1
  · exact hat.2.1
  · exact hat.2.1
  · exact hat.2.1
  · exact hat.2.2

theorem OnCourse.state_of_awaitingFrame (h : c.OnCourse) {deadline : Option Nat}
    (hp : c.phase = .awaitingFrame deadline) : c.state = .open := by
  rw [h.state_eq, hp]
  rfl

end Connection
end WebSocket
