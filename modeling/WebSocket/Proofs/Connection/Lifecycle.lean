import WebSocket.Proofs.Connection.Withdrawal

/-
The states that a connection passes through.  Each of its effects has its place: a state is entered
that lies ahead, messages are told of in the open state, and close frames are sent in the closing
one (`Effect.Fits`).  Every operation adds effects that fit one after the other and lead to the state
that it leaves behind (`Connection.Passes`), so the whole log of a connection is in order, whatever
happens outside (`Connection.lifecycle_after`).
-/
namespace WebSocket

/-! ## Close frames on the wire -/

/-- Bytes that write a close frame without reserved bits.  An HTTP response begins with the letter
that would be the first byte of a close frame with one. -/
def Frame.WritesClose (data : Bytes) : Prop :=
  ∃ f : Frame, f.opcode = .close ∧ f.hasReserved = false ∧ data = f.encode

namespace Frame

theorem not_writesClose_of_head? {data : Bytes} (h : data.head? = some 0x48) :
    ¬ WritesClose data := by
  rintro ⟨f, -, hreserved, rfl⟩
  have hfirst : f.firstByte = 0x48 := Option.some.inj h
  obtain ⟨-, -, hrsv1, -⟩ := f.firstByte_bits
  have hnone : f.rsv1 = false := (Bool.or_eq_false_iff.mp (Bool.or_eq_false_iff.mp hreserved).1).1
  rw [hfirst, hnone] at hrsv1
  cases hrsv1

theorem not_writesClose_refusalBytes (status : Http.Status) :
    ¬ WritesClose status.refusalBytes := by
  apply not_writesClose_of_head?
  cases status <;> rfl

theorem opcode_eq_of_encode_eq {f g : Frame} (h : f.encode = g.encode) : f.opcode = g.opcode := by
  have hfirst : f.firstByte = g.firstByte := (List.cons.inj h).1
  have hvalue : f.opcode.value.toNat = g.opcode.value.toNat := by
    rw [← f.firstByte_bits.1, ← g.firstByte_bits.1, hfirst]
  have hcode := Opcode.ofValue_value f.opcode
  rw [hvalue, Opcode.ofValue_value] at hcode
  exact (Except.ok.inj hcode).symm

theorem not_writesClose_encode {f : Frame} (h : f.opcode ≠ .close) : ¬ WritesClose f.encode := by
  rintro ⟨g, hg, -, heq⟩
  exact h ((opcode_eq_of_encode_eq heq).trans hg)

end Frame

/-! ## Effects in order -/

namespace ConnectionState

theorem rank_le_of_canMoveTo {s next : ConnectionState} (h : s.canMoveTo next = true) :
    s.rank ≤ next.rank := by
  rcases (Bool.or_eq_true _ _).mp h with hclosed | hlt
  · rw [beq_iff_eq.mp hclosed]
    cases s <;> decide
  · exact Nat.le_of_lt (of_decide_eq_true hlt)

end ConnectionState

namespace Effect

/-- The state after an effect. -/
def leadsFrom (s : ConnectionState) : Effect → ConnectionState
  | .enter next => next
  | _ => s

/-- Whether a state is the place of an effect. -/
def Fits (s : ConnectionState) : Effect → Prop
  | .enter next => s.canMoveTo next = true
  | .write data => Frame.WritesClose data → s = .closing
  | .writeFailed data => Frame.WritesClose data → s = .closing
  | .call (.message _ _) => s = .open
  | .call (.binary _ _) => s = .open
  | _ => True

/-- The state that effects lead to. -/
def stateAfter (s : ConnectionState) (effects : List Effect) : ConnectionState :=
  effects.foldl leadsFrom s

/-- Effects of which each fits the state that those before it lead to. -/
def InOrder (s : ConnectionState) : List Effect → Prop
  | [] => True
  | e :: rest => e.Fits s ∧ InOrder (e.leadsFrom s) rest

variable {s : ConnectionState} {e : Effect} {before after effects : List Effect}

theorem stateAfter_append (s : ConnectionState) (before after : List Effect) :
    stateAfter s (before ++ after) = stateAfter (stateAfter s before) after :=
  List.foldl_append

theorem inOrder_append :
    InOrder s (before ++ after) ↔ InOrder s before ∧ InOrder (stateAfter s before) after := by
  induction before generalizing s with
  | nil => exact (iff_of_eq (true_and _)).symm
  | cons e before ih => exact (and_congr_right fun _ => ih).trans and_assoc.symm

theorem InOrder.fits (h : InOrder s (before ++ e :: after)) : e.Fits (stateAfter s before) :=
  (inOrder_append.mp h).2.1

/-- Effects that are in order lead to no earlier state. -/
theorem InOrder.rank_le (h : InOrder s effects) : s.rank ≤ (stateAfter s effects).rank := by
  induction effects generalizing s with
  | nil => exact Nat.le_refl _
  | cons e effects ih =>
    obtain ⟨hfits, hrest⟩ := h
    have hfirst : s.rank ≤ (e.leadsFrom s).rank := by
      cases e with
      | enter next => exact ConnectionState.rank_le_of_canMoveTo hfits
      | _ => exact Nat.le_refl _
    exact Nat.le_trans hfirst (ih hrest)

end Effect

namespace Connection

open Effect (stateAfter InOrder)

/-- A connection has come to another by effects that are in order and lead from the state of the one
to the state of the other. -/
def Passes (c d : Connection) : Prop :=
  ∃ done, d.effects = c.effects ++ done ∧ InOrder c.state done ∧ d.state = stateAfter c.state done

variable {c d next : Connection}

theorem passes_of_same (hstate : d.state = c.state) (hlog : d.log = c.log) : c.Passes d :=
  ⟨[], by rw [effects, effects, hlog, List.append_nil], trivial, hstate⟩

theorem Passes.refl (c : Connection) : c.Passes c :=
  passes_of_same rfl rfl

theorem Passes.trans (h : c.Passes d) (h' : d.Passes next) : c.Passes next := by
  obtain ⟨done, heffects, horder, hstate⟩ := h
  obtain ⟨done', heffects', horder', hstate'⟩ := h'
  rw [hstate] at horder' hstate'
  refine ⟨done ++ done', by rw [heffects', heffects, List.append_assoc],
    Effect.inOrder_append.mpr ⟨horder, horder'⟩, ?_⟩
  rw [hstate', Effect.stateAfter_append]

theorem Passes.rank_le (h : c.Passes d) : c.state.rank ≤ d.state.rank := by
  obtain ⟨done, -, horder, hstate⟩ := h
  rw [hstate]
  exact horder.rank_le

/-! ## Operations -/

theorem passes_emit {e : Effect} (he : e.Fits c.state) (hstay : e.leadsFrom c.state = c.state) :
    c.Passes (c.emit e) :=
  ⟨[e], List.reverse_cons, ⟨he, trivial⟩, hstay.symm⟩

theorem passes_enter {s : ConnectionState} (h : c.state.canMoveTo s = true) :
    c.Passes (c.enter s) :=
  ⟨[.enter s], List.reverse_cons, ⟨h, trivial⟩, rfl⟩

@[simp] theorem state_write (c : Connection) (data : Bytes) :
    (c.write data).1.state = c.state := by
  rcases c.write_cases data with ⟨-, -, hw⟩ | ⟨failure, -, hw⟩ | ⟨failure, -, -, hw⟩ <;> rw [hw] <;>
    rfl

theorem passes_write {data : Bytes} (h : Frame.WritesClose data → c.state = .closing) :
    c.Passes (c.write data).1 := by
  have hwrite : c.Passes (c.emit (.write data)) := passes_emit h rfl
  rcases c.write_cases data with ⟨-, -, hw⟩ | ⟨failure, -, hw⟩ | ⟨failure, -, -, hw⟩ <;> rw [hw]
  · exact hwrite
  · exact passes_emit h rfl
  · exact hwrite.trans (passes_emit trivial rfl)

theorem passes_of_write {data : Bytes} {e : Option Error}
    (h : Frame.WritesClose data → c.state = .closing) (hw : c.write data = (d, e)) :
    c.Passes d ∧ d.state = c.state := by
  have hpasses := passes_write h
  have hstate := c.state_write data
  rw [hw] at hpasses hstate
  exact ⟨hpasses, hstate⟩

theorem passes_report (c : Connection) (verdict : Option Error) : c.Passes (c.report verdict) := by
  unfold report
  split
  · split
    · exact .refl c
    · exact passes_emit trivial rfl
  · exact .refl c

theorem passes_awaitFrame (c : Connection) : c.Passes c.awaitFrame :=
  passes_of_same rfl rfl

theorem passes_releasePermit (c : Connection) : c.Passes c.releasePermit := by
  unfold releasePermit
  cases c.permit with
  | none => exact .refl c
  | some permit => exact ⟨[.release permit.ip], List.reverse_cons, ⟨trivial, trivial⟩, rfl⟩

theorem passes_farewell (c : Connection) : c.Passes c.farewell := by
  unfold farewell
  split
  · exact passes_emit trivial rfl
  · exact .refl c

/-- From every state a connection may close. -/
theorem passes_finish (c : Connection) (verdict : Option Error) : c.Passes (c.finish verdict) := by
  have hclosed : c.Passes ((c.report verdict).enter .closed) :=
    (passes_report c verdict).trans (passes_enter rfl)
  have hshut := hclosed.trans (passes_emit (e := .shut) trivial rfl)
  exact (hshut.trans (passes_releasePermit _)).trans (passes_farewell _)

theorem passes_reject (c : Connection) (e : Error) : c.Passes (c.reject e) := by
  unfold reject
  split
  · rename_i status hrefusal
    have hwrite : c.Passes (c.write status.refusalBytes).1 :=
      passes_write fun h => absurd h (Frame.not_writesClose_refusalBytes status)
    exact hwrite.trans (passes_finish _ _)
  · exact passes_finish c _

theorem passes_closeWith (c : Connection) (code : CloseCode) (reason : String)
    (verdict : Option Error) (onFailure : Error → Option Error) :
    c.Passes (c.closeWith code reason verdict onFailure) := by
  unfold closeWith
  by_cases hcan : c.state.canSend = true
  · rw [if_pos hcan]
    have hopen : c.state = .open := beq_iff_eq.mp hcan
    have henter : c.Passes (c.enter .closing) := passes_enter (by rw [hopen]; rfl)
    -- the frame is sent from the state that has just been entered
    split <;> rename_i hw <;> have hsent := henter.trans (passes_of_write (fun _ => rfl) hw).1
    · exact hsent.trans (passes_finish _ _)
    · exact hsent.trans (passes_of_same rfl rfl)
  · rw [if_neg hcan]
    exact passes_finish c _

theorem passes_fail (c : Connection) (e : Error) : c.Passes (c.fail e) := by
  unfold fail
  split
  · exact passes_closeWith ..
  · exact passes_finish c _

theorem passes_drained (c : Connection) (verdict : Option Error) :
    c.Passes (c.drained verdict) := by
  have hclosed : c.Passes (c.enter .closed) := passes_enter rfl
  exact hclosed.trans (passes_finish _ _)

/-! ## Handshake -/

theorem passes_accept (h : c.state = .handshaking) (request : Upgrade.Request) :
    c.Passes (c.accept request) := by
  have hdata : Frame.WritesClose (Bytes.ofText request.acceptResponse) → c.state = .closing :=
    fun hclose => absurd hclose (Frame.not_writesClose_of_head? (head?_acceptResponse request))
  unfold accept
  split <;> rename_i hw
  · exact (passes_of_write hdata hw).1.trans (passes_finish _ _)
  · rename_i d
    obtain ⟨hwrite, hstate⟩ := passes_of_write hdata hw
    let known : Connection := { d.enter .open with connected := true }
    have hopen : d.Passes known := passes_enter (by rw [hstate, h]; rfl)
    have hconnect : known.Passes (known.notify (.connect known.client)) := passes_emit trivial rfl
    exact ((hwrite.trans hopen).trans hconnect).trans (passes_awaitFrame _)

theorem passes_reidentify (c : Connection) (request : Upgrade.Request) :
    c.Passes (c.reidentify request).1 ∧ (c.reidentify request).1.state = c.state := by
  rcases c.reidentify_cases request with ⟨-, hre⟩ | ⟨-, hre⟩ |
    ⟨permit, passed, admission, -, -, hre⟩ | ⟨permit, kept, admission, decision, -, -, -, hre⟩ <;>
    rw [hre]
  · exact ⟨.refl c, rfl⟩
  · exact ⟨passes_of_same rfl rfl, rfl⟩
  · exact ⟨⟨[.transfer _ _ _], List.reverse_cons, ⟨trivial, trivial⟩, rfl⟩, rfl⟩
  · exact ⟨⟨[.transfer _ _ _], List.reverse_cons, ⟨trivial, trivial⟩, rfl⟩, rfl⟩

theorem passes_handshake (h : c.state = .awaitingRequest) (head : Bytes) :
    c.Passes (c.handshake head) := by
  have henter : c.Passes (c.enter .handshaking) := passes_enter (by rw [h]; rfl)
  unfold handshake
  simp only
  split
  · exact henter.trans (passes_reject _ _)
  · rename_i request _
    obtain ⟨hpasses, hstate⟩ := (c.enter .handshaking).passes_reidentify request
    split <;> rename_i hre <;> rw [hre] at hpasses hstate
    · exact (henter.trans hpasses).trans (passes_reject _ _)
    · exact (henter.trans hpasses).trans (passes_accept hstate request)

/-! ## Messages -/

theorem passes_reply {reply : Option Frame}
    (h : ∀ frame, reply = some frame → frame.opcode ≠ .close) : c.Passes (c.reply reply) := by
  unfold Connection.reply
  split
  · exact passes_awaitFrame c
  · rename_i frame
    have hdata : Frame.WritesClose frame.encode → c.state = .closing :=
      fun hclose => absurd hclose (Frame.not_writesClose_encode (h frame rfl))
    split <;> rename_i hw <;> have hsent := (passes_of_write hdata hw).1
    · exact hsent.trans (passes_finish _ _)
    · exact hsent.trans (passes_awaitFrame _)

/-- A close frame of the peer is answered in the closing state. -/
theorem passes_part (h : c.state = .open) (frame : Frame) (verdict : Option Error) :
    c.Passes ((((c.enter .closing).sendAnyway frame).enter .closed).finish verdict) := by
  have henter : c.Passes (c.enter .closing) := passes_enter (by rw [h]; rfl)
  have hsend : (c.enter .closing).Passes ((c.enter .closing).sendAnyway frame) :=
    passes_write fun _ => rfl
  exact ((henter.trans hsend).trans (passes_enter rfl)).trans (passes_finish _ _)

theorem passes_answer (h : c.state = .open) (message : Message) : c.Passes (c.answer message) := by
  match message with
  | .text content =>
    have hnotify : c.Passes (c.notify (.message c.client content)) := passes_emit h rfl
    refine hnotify.trans (passes_reply fun frame hframe => ?_)
    obtain ⟨reply, -, rfl⟩ := Option.map_eq_some_iff.mp hframe
    exact nofun
  | .binary data =>
    have hnotify : c.Passes (c.notify (.binary c.client data)) := passes_emit h rfl
    refine hnotify.trans (passes_reply fun frame hframe => ?_)
    obtain ⟨reply, -, rfl⟩ := Option.map_eq_some_iff.mp hframe
    exact nofun
  | .ping data =>
    refine passes_reply fun frame hframe => ?_
    cases hframe
    exact nofun
  | .pong _ => exact passes_awaitFrame c
  | .close content => exact passes_part h _ none

theorem passes_dispatch (h : c.state = .open) (frame : Frame) : c.Passes (c.dispatch frame) := by
  unfold dispatch
  split
  · exact passes_answer h _
  · split
    · exact passes_part h _ _
    · exact passes_fail c _

/-! ## Steps -/

theorem HeadStep.passes {deadline : Option Nat} (h : HeadStep c deadline next)
    (hstate : c.state = .awaitingRequest) : c.Passes next := by
  cases h with
  | stop => exact passes_finish c _
  | @found head codec => exact passes_handshake (c := { c with codec }) hstate head
  | @failed e codec => exact passes_reject { c with codec } e
  | more => exact passes_of_same rfl rfl
  | late => exact passes_reject c _

theorem FrameStep.passes {deadline : Option Nat} (h : FrameStep c deadline next)
    (hstate : c.state = .open) : c.Passes next := by
  cases h with
  | stop => exact passes_closeWith ..
  | @found frame codec => exact passes_dispatch (c := { c with codec }) hstate frame
  | @timedOut e codec => exact passes_closeWith { c with codec } ..
  | @failed e codec => exact passes_fail { c with codec } e
  | more => exact passes_of_same rfl rfl
  | late => exact passes_closeWith c ..

theorem DrainStep.passes {deadline : Nat} {verdict : Option Error}
    (h : DrainStep c deadline verdict next) : c.Passes next := by
  cases h with
  | @closed frame codec => exact passes_drained { c with codec } verdict
  | passed => exact passes_of_same rfl rfl
  | @failed e codec => exact passes_drained { c with codec } verdict
  | more => exact passes_of_same rfl rfl
  | late => exact passes_drained c verdict

theorem OnCourse.passes_of_step? (h : c.OnCourse) (hs : c.step? = some next) : c.Passes next := by
  have hstate := h.state_eq
  unfold step? at hs
  split at hs <;> rename_i hp
  · cases hs
    exact passes_of_same rfl rfl
  · exact (headStep hs).passes (by rw [hstate, hp]; rfl)
  · exact (frameStep hs).passes (by rw [hstate, hp]; rfl)
  · exact (drainStep hs).passes
  · cases hs

theorem OnCourse.passes_after (h : c.OnCourse) (moves : List Move) : c.Passes (c.after moves) := by
  have hinv : (c.after moves).OnCourse ∧ c.Passes (c.after moves) := by
    refine after_induction (P := fun d => d.OnCourse ∧ c.Passes d) (fun d next hd hs => ?_)
      (fun d m hd hm => ?_) ⟨h, .refl c⟩ moves
    · exact ⟨hd.1.step hs, hd.2.trans (hd.1.passes_of_step? hs)⟩
    · have hinside := sameInside_move hm d
      exact ⟨hd.1.of_sameInside hinside, hd.2.trans (passes_of_same hinside.state hinside.log)⟩
  exact hinv.2

/-! ## The whole life -/

/-- The frame that a connection takes up with its next step. -/
def frameFound? (c : Connection) : Option (Frame × Codec) :=
  match c.phase, c.stopping, c.codec.stepFrame with
  | .awaitingFrame _, false, .done (.ok frame) codec => some (frame, codec)
  | _, _, _ => none

theorem frameFound?_eq_some_iff {frame : Frame} {codec : Codec} :
    c.frameFound? = some (frame, codec) ↔ (∃ deadline, c.phase = .awaitingFrame deadline) ∧
      c.stopping = false ∧ c.codec.stepFrame = .done (.ok frame) codec := by
  unfold frameFound?
  constructor
  · intro h
    split at h
    · rename_i deadline found codec' hp hs hr
      cases h
      exact ⟨⟨deadline, hp⟩, hs, hr⟩
    · cases h
  · rintro ⟨⟨deadline, hp⟩, hs, hr⟩
    rw [hp, hs, hr]

theorem step?_of_frameFound? {frame : Frame} {codec : Codec}
    (h : c.frameFound? = some (frame, codec)) :
    c.step? = some (dispatch { c with codec } frame) := by
  obtain ⟨⟨deadline, hp⟩, hs, hr⟩ := frameFound?_eq_some_iff.mp h
  simp only [step?, stepFrame?, hp, hs, hr, Bool.false_eq_true, if_false]

/-- What holds of the states of a connection throughout its life. -/
structure Lifecycle (c : Connection) : Prop where
  /-- The state is the one that the effects have led to. -/
  state : c.state = stateAfter .awaitingRequest c.effects
  /-- Whatever state has been entered, the one before it allowed that. -/
  legal : ∀ before s after, c.effects = before ++ .enter s :: after →
    (stateAfter .awaitingRequest before).canMoveTo s = true
  /-- No earlier state was further on. -/
  forward : ∀ before after, c.effects = before ++ after →
    (stateAfter .awaitingRequest before).rank ≤ c.state.rank
  /-- A frame is taken up in the open state only. -/
  dispatches : ∀ frame codec, c.frameFound? = some (frame, codec) →
    c.step? = some (dispatch { c with codec } frame) ∧ c.state = .open
  /-- Messages have been told of in the open state only. -/
  messages : ∀ before call after client, c.effects = before ++ .call call :: after →
    call.Brings client → stateAfter .awaitingRequest before = .open
  /-- Close frames have been sent in the closing state only, whether that failed or not. -/
  closes : ∀ before e after data, c.effects = before ++ e :: after →
    e = .write data ∨ e = .writeFailed data → Frame.WritesClose data →
      stateAfter .awaitingRequest before = .closing
  /-- A connection that is over is closed. -/
  closed : c.isFinished = true → c.state = .closed

theorem OnCourse.lifecycle (h : c.OnCourse)
    (horder : InOrder .awaitingRequest c.effects)
    (hstate : c.state = stateAfter .awaitingRequest c.effects) : c.Lifecycle where
  state := hstate
  legal := fun before s after heq => (heq ▸ horder).fits
  forward := fun before after heq => by
    rw [heq] at horder hstate
    rw [hstate, Effect.stateAfter_append]
    exact (Effect.inOrder_append.mp horder).2.rank_le
  dispatches := fun frame codec hfound => by
    obtain ⟨⟨deadline, hp⟩, -⟩ := frameFound?_eq_some_iff.mp hfound
    refine ⟨step?_of_frameFound? hfound, ?_⟩
    rw [h.state_eq, hp]
    rfl
  messages := fun before call after client heq hbrings => by
    have hfits : (Effect.call call).Fits _ := (heq ▸ horder).fits
    cases call with
    | message _ _ => exact hfits
    | binary _ _ => exact hfits
    | _ => exact absurd hbrings id
  closes := fun before e after data heq he hclose => by
    have hfits : e.Fits _ := (heq ▸ horder).fits
    rcases he with rfl | rfl <;> exact hfits hclose
  closed := fun hfinished => by
    rw [h.state_eq, beq_iff_eq.mp hfinished]
    rfl

/-- Whatever the peer sends and whenever, whatever fails, and whenever the server is stopped: a
connection enters only states that the one before allows, and never falls back; it takes up frames
in the open state and sends close frames in the closing one; and where it ends it is closed.  It
does end once the peer has closed. -/
theorem lifecycle_after (config : Config) (application : Application) (peer : Address)
    (admission : Admission.Controller) (permit : Option Admission.Controller.Permit)
    (now admissionTime : Nat) (moves : List Move) :
    let c := (new config application peer admission permit now admissionTime).after moves
    c.Lifecycle ∧ (∀ later, c.state.rank ≤ (c.after later).state.rank) ∧
      (c.codec.inbox.ended = true → ∃ steps,
        let d := c.after (List.replicate steps .step)
        d.isFinished = true ∧ d.state = .closed) := by
  intro c
  have hstart : (new config application peer admission permit now admissionTime).OnCourse :=
    onCourse_new ..
  have hcourse : c.OnCourse := hstart.after moves
  obtain ⟨done, heffects, horder, hstate⟩ := hstart.passes_after moves
  -- nothing has been done at the start, so what has been done since is all
  have hdone : c.effects = done := heffects
  refine ⟨?_, fun later => (hcourse.passes_after later).rank_le, fun hended => ?_⟩
  · rw [← hdone] at horder hstate
    exact hcourse.lifecycle horder hstate
  · obtain ⟨steps, hfinished⟩ := exists_isFinished hended
    refine ⟨steps, hfinished, ?_⟩
    rw [(hcourse.after _).state_eq, beq_iff_eq.mp hfinished]
    rfl

/-- A connection that is let in and then told to stop passes through all states.  It is closed once
by the end of the drain and once more by its own end. -/
example : (recalled.effects.filterMap fun | .enter s => some s | _ => none) =
    [.handshaking, .open, .closing, .closed, .closed] := by
  decide +kernel

end Connection
end WebSocket
