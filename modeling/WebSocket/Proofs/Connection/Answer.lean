import WebSocket.Proofs.Connection.Output
import WebSocket.Proofs.Connection.Refinement
import WebSocket.Proofs.Connection.Tenure
import WebSocket.Proofs.Upgrade.Refusal
import WebSocket.Proofs.Upgrade.Response

/-
What a connection answers to the head of a request.  Once the head has been read, or turned out to
be too large, there is one answer to it (`Connection.judgement`): the request is accepted, refused
with a status, or dropped.  The connection writes that answer when no write fails, and nothing but
frames ever after (`Connection.answers_head`).
-/
namespace WebSocket

/-- What becomes of a request. -/
inductive Judgement
  | accepted (request : Upgrade.Request)
  | refused (status : Http.Status)
  | dropped
deriving DecidableEq

/-- What is written to tell of a judgement. -/
def Judgement.writes : Judgement → List Bytes
  | .accepted request => [Bytes.ofText request.acceptResponse]
  | .refused status => [status.refusalBytes]
  | .dropped => []

namespace Connection

/-- What the next step of a connection reads of the head: the head, or an error. -/
def headRead? (c : Connection) : Option (Except Error Bytes) :=
  match c.phase, c.stopping, c.codec.stepHead with
  | .awaitingHead _, false, .done result _ => some result
  | _, _, _ => none

/-- Whether a connection may serve the client of a request: it holds no permit, or its permit is
for this client, or can be passed on to it. -/
def mayServe (c : Connection) (request : Upgrade.Request) : Bool :=
  match c.permit with
  | none => true
  | some permit =>
    let client := Http.identify c.peer request.headers
    client = c.client ∨ (c.admission.transferPermit permit client c.admissionTime).1 = .admitted

/-- What is to become of a request, by what was read of its head. -/
def judgement (c : Connection) : Except Error Bytes → Judgement
  | .error (.requestTooLarge _ _) => .refused .payloadTooLarge
  | .error _ => .dropped
  | .ok head =>
    match c.config.policy.judge head with
    | .error (.originNotAllowed _) => .refused .forbidden
    | .error _ => .refused .badRequest
    | .ok request =>
      if c.mayServe request then .accepted request
      else if c.config.rejectWithStatus then .refused .tooManyRequests
      else .dropped

end Connection

/-! ## Frames after the answer -/

namespace Stage

open Connection (writesOf writesOf_append_write writesOf_append_quiet)

/-- What has been written by a stage: nothing until the request has been judged, and frames alone
after the first write. -/
def Wrote (effects : List Effect) : Stage → Prop
  | .silent => writesOf effects = []
  | .judging => writesOf effects = []
  | _ => ∃ frames : List Frame, (writesOf effects).tail = frames.map Frame.encode

variable {config : Config} {application : Application} {peer : Address} {s t : Stage} {e : Effect}
  {effects log : List Effect}

theorem Wrote.tail (h : s.Wrote effects) :
    ∃ frames : List Frame, (writesOf effects).tail = frames.map Frame.encode := by
  cases s with
  | silent => exact ⟨[], by rw [show writesOf effects = [] from h]; rfl⟩
  | judging => exact ⟨[], by rw [show writesOf effects = [] from h]; rfl⟩
  | _ => exact h

theorem Wrote.tail_quiet (h : s.Wrote effects) (he : writesOf [e] = []) :
    ∃ frames : List Frame, (writesOf (effects ++ [e])).tail = frames.map Frame.encode := by
  rw [writesOf_append_quiet effects he]
  exact h.tail

theorem Wrote.tail_frame (h : s.Wrote effects) (frame : Frame) :
    ∃ frames : List Frame,
      (writesOf (effects ++ [.write frame.encode])).tail = frames.map Frame.encode := by
  obtain ⟨frames, hframes⟩ := h.tail
  rw [writesOf_append_write]
  cases hw : writesOf effects with
  | nil => exact ⟨[], rfl⟩
  | cons first rest =>
    rw [hw, List.tail_cons] at hframes
    refine ⟨frames ++ [frame], ?_⟩
    rw [List.cons_append, List.tail_cons, hframes, List.map_append]
    rfl

theorem Wrote.tail_first (h : writesOf effects = []) (data : Bytes) :
    ∃ frames : List Frame,
      (writesOf (effects ++ [.write data])).tail = frames.map Frame.encode := by
  rw [writesOf_append_write, h]
  exact ⟨[], rfl⟩

/-- What a connection does at a stage leads to what has been written by the next. -/
theorem Wrote.does (h : s.Wrote effects) (hd : Does config application peer s e t) :
    t.Wrote (effects ++ [e]) := by
  cases hd with
  | judge => exact (writesOf_append_quiet _ rfl).trans h
  | transfer => exact (writesOf_append_quiet _ rfl).trans h
  | refuse hs =>
    have hnone : writesOf effects = [] := by
      rcases hs with rfl | rfl <;> exact h
    exact Wrote.tail_first hnone _
  | accept => exact Wrote.tail_first h _
  | answer => exact h.tail_frame _
  | close => exact h.tail_frame _
  | _ => exact h.tail_quiet rfl

theorem Course.wrote (h : Course config application peer log s) : s.Wrote log.reverse := by
  induction h with
  | start => rfl
  | next _ hd ih =>
    rw [List.reverse_cons]
    exact ih.does hd

end Stage
namespace Connection

variable {c next : Connection}

/-! ## What single operations write -/

theorem writesOf_visible (c : Connection) : writesOf c.visible = writesOf c.effects := by
  unfold visible writesOf
  rw [List.filterMap_filter]
  congr 1
  funext e
  cases e <;> rfl

theorem writesOf_append (earlier later : List Effect) :
    writesOf (earlier ++ later) = writesOf earlier ++ writesOf later :=
  List.filterMap_append

theorem Adds.writes {shown : List Effect} (h : c.Adds next shown) :
    writesOf next.effects = writesOf c.effects ++ writesOf shown := by
  rw [← writesOf_visible, ← writesOf_visible, h.visible, writesOf_append]

/-- At its end a connection writes nothing. -/
theorem writes_finish (c : Connection) (verdict : Option Error) :
    writesOf (c.finish verdict).effects = writesOf c.effects := by
  have hreport : writesOf (reported c.client verdict) = [] := by
    unfold reported
    split
    · split <;> rfl
    · rfl
  have hfarewell : writesOf (if c.connected then [.call (.disconnect c.client)] else []) = [] := by
    split <;> rfl
  rw [(c.adds_finish verdict).writes, writesOf_append, hreport, hfarewell]
  exact List.append_nil _

/-- A connection whose writes and flushes do not fail. -/
structure CanWrite (c : Connection) : Prop where
  writes : c.writeFailure = none
  flushes : c.flushFailure = none

theorem CanWrite.write (h : c.CanWrite) (data : Bytes) :
    c.write data = (c.emit (.write data), none) := by
  rcases c.write_cases data with ⟨-, -, hw⟩ | ⟨failure, hf, -⟩ | ⟨failure, -, hf, -⟩
  · exact hw
  · rw [h.writes] at hf
    cases hf
  · rw [h.flushes] at hf
    cases hf

theorem writes_emit (c : Connection) (e : Effect) :
    writesOf (c.emit e).effects = writesOf c.effects ++ writesOf [e] := by
  show writesOf (e :: c.log).reverse = _
  rw [List.reverse_cons, writesOf_append]
  rfl

/-- A refusal is written if there is a status for it. -/
theorem CanWrite.writes_reject (h : c.CanWrite) (e : Error) :
    writesOf (c.reject e).effects =
      writesOf c.effects ++ (c.refusal? e).toList.map Http.Status.refusalBytes := by
  unfold reject
  cases c.refusal? e with
  | none => simp [writes_finish]
  | some status =>
    simp only [h.write]
    rw [writes_finish, writes_emit]
    rfl

theorem CanWrite.writes_accept (h : c.CanWrite) (request : Upgrade.Request) :
    writesOf (c.accept request).effects =
      writesOf c.effects ++ [Bytes.ofText request.acceptResponse] := by
  unfold accept
  simp only [h.write]
  show writesOf (Effect.call _ :: Effect.enter _ :: Effect.write _ :: c.log).reverse = _
  simp only [List.reverse_cons]
  rw [writesOf_append_quiet _ rfl, writesOf_append_quiet _ rfl, writesOf_append_write]
  rfl

/-! ## The answer -/

/-- How a connection goes on with a judgement: it finds in the outcome of the identification what
it is to write, and has written nothing yet. -/
structure Concludes (c d : Connection) (outcome : Except Error Upgrade.Request)
    (judgement : Judgement) : Prop where
  writes : writesOf d.effects = writesOf c.effects
  canWrite : d.CanWrite
  outcome : (∃ request, outcome = .ok request ∧ judgement = .accepted request) ∨
    (∃ e status, outcome = .error e ∧ d.refusal? e = some status ∧ judgement = .refused status) ∨
      ∃ e, outcome = .error e ∧ d.refusal? e = none ∧ judgement = .dropped

theorem identified_of_error {head : Bytes} {e : Error} (h : c.config.policy.judge head = .error e) :
    c.identified head = (c.enter .handshaking, .error e) := by
  have hjudge : (c.enter .handshaking).config.policy.judge head = .error e := h
  simp only [identified, hjudge]

theorem identified_of_ok {head : Bytes} {request : Upgrade.Request}
    (h : c.config.policy.judge head = .ok request) {d : Connection} {failure : Option Error}
    (hre : (c.enter .handshaking).reidentify request = (d, failure)) :
    c.identified head = (d, match failure with
      | some e => .error e
      | none => .ok request) := by
  have hjudge : (c.enter .handshaking).config.policy.judge head = .ok request := h
  simp only [identified, hjudge, hre]
  cases failure <;> rfl

theorem judgement_of_ok {head : Bytes} {request : Upgrade.Request}
    (h : c.config.policy.judge head = .ok request) :
    c.judgement (.ok head) = if c.mayServe request then .accepted request
      else if c.config.rejectWithStatus then .refused .tooManyRequests else .dropped := by
  simp only [judgement, h]

/-- A head that is whole and not too large is refused with the status of what is held against it. -/
theorem judgement_of_error {head : Bytes} {e : Error} (h : c.config.policy.judge head = .error e)
    (he : Upgrade.Objection e) :
    ∃ status, c.refusal? e = some status ∧ c.judgement (.ok head) = .refused status := by
  cases he with
  | handshake => exact ⟨.badRequest, rfl, by simp only [judgement, h]⟩
  | header => exact ⟨.badRequest, rfl, by simp only [judgement, h]⟩
  | client => exact ⟨.badRequest, rfl, by simp only [judgement, h]⟩
  | site => exact ⟨.forbidden, rfl, by simp only [judgement, h]⟩

theorem mayServe_of_none {request : Upgrade.Request} (h : c.permit = none) :
    c.mayServe request = true := by
  simp only [mayServe, h]

theorem mayServe_of_permit {request : Upgrade.Request} {permit : Admission.Controller.Permit}
    (h : c.permit = some permit) : c.mayServe request =
      decide (Http.identify c.peer request.headers = c.client ∨ (c.admission.transferPermit permit
        (Http.identify c.peer request.headers) c.admissionTime).1 = .admitted) := by
  simp only [mayServe, h]

theorem reidentify_of_client {request : Upgrade.Request}
    (h : Http.identify c.peer request.headers = c.client) : c.reidentify request = (c, none) :=
  if_pos h

/-- The identification of the client writes nothing, and fails if the client must not be served. -/
theorem reidentify_served (h : c.CanWrite) (request : Upgrade.Request) :
    writesOf (c.reidentify request).1.effects = writesOf c.effects ∧
      (c.reidentify request).1.CanWrite ∧ (c.reidentify request).1.config = c.config ∧
        ((c.reidentify request).2 = none ∧ c.mayServe request = true ∨
          ∃ decision, (c.reidentify request).2 = some (.admissionRefused decision) ∧
            c.mayServe request = false) := by
  rcases c.reidentify_cases request with ⟨hclient, hre⟩ | ⟨hp, hre⟩ |
    ⟨permit, passed, admission, hp, ht, hre⟩ |
    ⟨permit, kept, admission, decision, hp, hd, ht, hre⟩ <;> rw [hre]
  · have hserve : c.mayServe request = true := by
      cases hp : c.permit with
      | none => exact mayServe_of_none hp
      | some permit => exact (mayServe_of_permit hp).trans (decide_eq_true (.inl hclient))
    exact ⟨rfl, h, rfl, .inl ⟨rfl, hserve⟩⟩
  · exact ⟨rfl, ⟨h.writes, h.flushes⟩, rfl, .inl ⟨rfl, mayServe_of_none hp⟩⟩
  · have hadmitted : (c.admission.transferPermit permit
        (Http.identify c.peer request.headers) c.admissionTime).1 = .admitted :=
      congrArg Prod.fst ht
    have hserve : c.mayServe request = true :=
      (mayServe_of_permit hp).trans (decide_eq_true (.inr hadmitted))
    refine ⟨?_, ⟨h.writes, h.flushes⟩, rfl, .inl ⟨rfl, hserve⟩⟩
    exact (writes_emit c _).trans (List.append_nil _)
  · have hclient : Http.identify c.peer request.headers ≠ c.client := by
      intro hclient
      have houtcome := congrArg Prod.snd ((reidentify_of_client hclient).symm.trans hre)
      cases houtcome
    have hrefused : (c.admission.transferPermit permit
        (Http.identify c.peer request.headers) c.admissionTime).1 = decision :=
      congrArg Prod.fst ht
    have hserve : c.mayServe request = false :=
      (mayServe_of_permit hp).trans
        (decide_eq_false (not_or.mpr ⟨hclient, fun h => hd (hrefused.symm.trans h)⟩))
    refine ⟨?_, ⟨h.writes, h.flushes⟩, rfl, .inr ⟨decision, rfl, hserve⟩⟩
    exact (writes_emit c _).trans (List.append_nil _)

theorem concludes_identified (h : c.CanWrite) {head : Bytes}
    (hhead : c.config.policy.takeHead head = .ok head) :
    c.Concludes (c.identified head).1 (c.identified head).2 (c.judgement (.ok head)) := by
  have hentered : writesOf (c.enter .handshaking).effects = writesOf c.effects :=
    (writes_emit _ _).trans (List.append_nil _)
  have hcan : (c.enter .handshaking).CanWrite := ⟨h.writes, h.flushes⟩
  cases hj : c.config.policy.judge head with
  | error e =>
    obtain ⟨status, hrefusal, hjudgement⟩ :=
      judgement_of_error hj (Upgrade.Policy.objects_judge hhead e hj)
    rw [identified_of_error hj, hjudgement]
    exact ⟨hentered, hcan, .inr (.inl ⟨e, status, rfl, hrefusal, rfl⟩)⟩
  | ok request =>
    have hserved := reidentify_served hcan request
    cases hre : (c.enter .handshaking).reidentify request with
    | mk d failure =>
      rw [hre] at hserved
      obtain ⟨hwrites, hcan, hconfig, houtcome⟩ := hserved
      have hmay : (c.enter .handshaking).mayServe request = c.mayServe request := rfl
      rw [hmay] at houtcome
      have hwritten := hwrites.trans hentered
      rw [judgement_of_ok hj, identified_of_ok hj hre]
      rcases houtcome with ⟨hnone, hserve⟩ | ⟨decision, hsome, hserve⟩
      · cases hnone
        rw [hserve]
        exact ⟨hwritten, hcan, .inl ⟨request, rfl, rfl⟩⟩
      · cases hsome
        rw [hserve]
        refine ⟨hwritten, hcan, .inr ?_⟩
        have hreject : d.config.rejectWithStatus = c.config.rejectWithStatus :=
          congrArg Config.rejectWithStatus hconfig
        by_cases hstatus : c.config.rejectWithStatus = true
        · exact .inl ⟨.admissionRefused decision, .tooManyRequests, rfl,
            if_pos (hreject.trans hstatus), if_pos hstatus⟩
        · exact .inr ⟨.admissionRefused decision, rfl, if_neg (hreject ▸ hstatus),
            if_neg hstatus⟩

/-- A connection has answered as a judgement says.  It goes on only if the request is accepted. -/
structure Answered (before : List Effect) (next : Connection) (judgement : Judgement) : Prop where
  writes : writesOf next.effects = writesOf before ++ judgement.writes
  rank : next.phase.rank ≤ 2
  finished : (∀ request, judgement ≠ .accepted request) → next.phase = .finished

theorem answered_reject (h : c.CanWrite) {e : Error} {judgement : Judgement}
    (hj : judgement.writes = (c.refusal? e).toList.map Http.Status.refusalBytes) :
    Answered c.effects (c.reject e) judgement where
  writes := by rw [h.writes_reject, hj]
  rank := by simp [Phase.rank]
  finished := fun _ => phase_reject c e

/-- A head that is whole and not too large is answered by its judgement. -/
theorem answered_handshake (h : c.CanWrite) {head : Bytes}
    (hhead : c.config.policy.takeHead head = .ok head) :
    Answered c.effects (c.handshake head) (c.judgement (.ok head)) := by
  obtain ⟨hwrites, hcan, houtcome⟩ := concludes_identified h hhead
  rw [handshake_eq]
  rcases houtcome with ⟨request, ho, hj⟩ | ⟨e, status, ho, hr, hj⟩ | ⟨e, ho, hr, hj⟩ <;>
    rw [ho, hj, conclude]
  · refine ⟨?_, rank_accept_le .., fun hno => absurd rfl (hno request)⟩
    rw [hcan.writes_accept, hwrites]
    rfl
  · have hanswered : Answered (c.identified head).1.effects ((c.identified head).1.reject e)
        (.refused status) := answered_reject hcan (by rw [hr]; rfl)
    exact { hanswered with writes := hwrites ▸ hanswered.writes }
  · have hanswered : Answered (c.identified head).1.effects ((c.identified head).1.reject e)
        .dropped := answered_reject hcan (by rw [hr]; rfl)
    exact { hanswered with writes := hwrites ▸ hanswered.writes }

/-- Of the errors of reading only one is answered: that the head is too large. -/
theorem judgement_of_stepHead {e : Error} {codec : Codec}
    (h : c.codec.stepHead = .done (.error e) codec) :
    (c.judgement (.error e)).writes = (c.refusal? e).toList.map Http.Status.refusalBytes := by
  rcases Codec.step_error h with ⟨hs, -⟩ | ⟨-, failure, queue, -, rfl, -⟩ | ⟨-, -, -, rfl, -⟩
  · obtain ⟨-, rfl⟩ := scanHead_eq_refused_iff.mp hs
    rfl
  · unfold Error.ofFailure
    cases failure.cause <;> rfl
  · rfl

/-- A head that has been read is whole, and not too large for the policy. -/
theorem takeHead_of_stepHead (hlimits : c.codec.limits = c.config.limits) {head : Bytes}
    {codec : Codec} (h : c.codec.stepHead = .done (.ok head) codec) :
    c.config.policy.takeHead head = .ok head := by
  obtain ⟨rest, hscan, -⟩ := Codec.step_ok h
  exact takeHead_of_scanHead hscan (by rw [hlimits]; rfl)

theorem headRead?_eq_some_iff {result : Except Error Bytes} :
    c.headRead? = some result ↔ (∃ deadline, c.phase = .awaitingHead deadline) ∧
      c.stopping = false ∧ ∃ codec, c.codec.stepHead = .done result codec := by
  unfold headRead?
  constructor
  · intro h
    split at h
    · rename_i deadline found codec hp hs hread
      cases h
      exact ⟨⟨deadline, hp⟩, hs, codec, hread⟩
    · cases h
  · rintro ⟨⟨deadline, hp⟩, hs, codec, hread⟩
    rw [hp, hs, hread]

/-- The step that reads the head answers it. -/
theorem answered_of_headRead? (h : c.CanWrite) (hlimits : c.codec.limits = c.config.limits)
    {result : Except Error Bytes} (hread : c.headRead? = some result) :
    Answered c.effects c.advance (c.judgement result) := by
  obtain ⟨⟨deadline, hp⟩, hs, codec, hstep⟩ := headRead?_eq_some_iff.mp hread
  have hcan : CanWrite { c with codec } := ⟨h.writes, h.flushes⟩
  cases result with
  | ok head =>
    have hnext : c.advance = handshake { c with codec } head := by
      simp [advance, step?, stepHead?, hp, hs, hstep]
    rw [hnext]
    exact answered_handshake hcan (takeHead_of_stepHead hlimits hstep)
  | error e =>
    have hnext : c.advance = reject { c with codec } e := by
      simp [advance, step?, stepHead?, hp, hs, hstep]
    rw [hnext]
    exact answered_reject (c := { c with codec }) hcan (judgement_of_stepHead hstep)

/-! ## Runs -/

theorem limits_after (c : Connection) (moves : List Move) :
    (c.after moves).codec.limits = c.codec.limits := by
  refine after_induction (P := fun d => d.codec.limits = c.codec.limits) (fun d next hd hs => ?_)
    (fun d m hd hm => ?_) rfl moves
  · obtain ⟨codec, hreads, hg⟩ := exists_ground_of_step? hs
    have hcodec : next.codec = codec := congrArg Ground.codec hg
    rw [hcodec, hreads.limits]
    exact hd
  · cases m with
    | step => exact absurd rfl hm
    | event e => cases e <;> exact hd
    | _ => exact hd

/-- What has been done after the head was answered stays done. -/
theorem exists_log_after (hrank : c.phase.rank ≤ 2) (moves : List Move) :
    ∃ new, (c.after moves).log = new ++ c.log := by
  have hinv : (c.after moves).phase.rank ≤ 2 ∧ ∃ new, (c.after moves).log = new ++ c.log := by
    refine after_induction (P := fun d => d.phase.rank ≤ 2 ∧ ∃ new, d.log = new ++ c.log)
      (fun d next hd hs => ?_) (fun d m hd hm => ?_) ⟨hrank, [], rfl⟩ moves
    · obtain ⟨hrank, earlier, hlog⟩ := hd
      refine ⟨Nat.le_trans (rank_le_of_step? hs) hrank, ?_⟩
      rcases proceeds_of_step? hs with (⟨hkeeps, -⟩ | ⟨hkeeps, verdict⟩) | ⟨deadline, -, -, hp, -⟩
      · obtain ⟨new, hnew, -⟩ := hkeeps.log
        exact ⟨new ++ earlier, by rw [hnew, hlog, List.append_assoc]⟩
      · obtain ⟨new, hnew, -⟩ := hkeeps.log
        obtain ⟨last, hlast, -⟩ := adds_finish _ verdict
        exact ⟨last ++ (new ++ earlier), by rw [hlast, hnew, hlog, List.append_assoc,
          List.append_assoc]⟩
      · simp [hp, Phase.rank] at hrank
    · obtain ⟨hrank, new, hlog⟩ := hd
      have hinside := sameInside_move hm d
      exact ⟨hinside.phase ▸ hrank, new, hinside.log.trans hlog⟩
  exact hinv.2

/-- A connection that is over does nothing more. -/
theorem log_after_of_finished (h : c.phase = .finished) (moves : List Move) :
    (c.after moves).phase = .finished ∧ (c.after moves).log = c.log := by
  refine after_induction (P := fun d => d.phase = .finished ∧ d.log = c.log)
    (fun d next hd hs => ?_) (fun d m hd hm => ?_) ⟨h, rfl⟩ moves
  · rw [step?, hd.1] at hs
    cases hs
  · have hinside := sameInside_move hm d
    exact ⟨hinside.phase.trans hd.1, hinside.log.trans hd.2⟩

/-- While the head is awaited nothing has been written. -/
theorem OnCourse.writes_of_awaitingHead (h : c.OnCourse) {deadline : Option Nat}
    (hp : c.phase = .awaitingHead deadline) : writesOf c.effects = [] := by
  obtain ⟨s, hf, hat⟩ := h
  simp only [IsAt, hp] at hat
  obtain ⟨rfl, -, -⟩ := hat
  exact Stage.Course.wrote hf

/-- After the answer nothing but frames is written, and after a refusal nothing at all. -/
theorem Answered.after {judgement : Judgement} (h : Answered [] next judgement)
    (hcourse : next.OnCourse) (later : List Move) : ∃ frames : List Frame,
      writesOf (next.after later).effects = judgement.writes ++ frames.map Frame.encode ∧
        ((∀ request, judgement ≠ .accepted request) →
          frames = [] ∧ (next.after later).isFinished = true) := by
  by_cases hno : ∀ request, judgement ≠ .accepted request
  · obtain ⟨hphase, hlog⟩ := log_after_of_finished (h.finished hno) later
    refine ⟨[], ?_, fun _ => ⟨rfl, by simp [isFinished, hphase]⟩⟩
    rw [effects, hlog]
    exact h.writes.trans (List.append_nil _).symm
  · obtain ⟨request, rfl⟩ := Classical.not_forall_not.mp hno
    obtain ⟨new, hlog⟩ := exists_log_after h.rank later
    have hwrites : writesOf (next.after later).effects =
        Bytes.ofText request.acceptResponse :: writesOf new.reverse := by
      rw [effects, hlog, List.reverse_append, writesOf_append]
      exact congrArg (· ++ writesOf new.reverse) h.writes
    obtain ⟨s, hf, -⟩ := hcourse.after later
    obtain ⟨frames, hframes⟩ := (Stage.Course.wrote hf).tail
    rw [← effects, hwrites, List.tail_cons] at hframes
    exact ⟨frames, by rw [hwrites, hframes]; rfl, fun h => absurd rfl (h request)⟩

/-- Whatever has happened before, the step that reads the head of the request answers it, unless a
write fails then.  What is written in answer is the acceptance of a request that stands and whose
client may be served, and the status of the refusal otherwise, but nothing where a refusal by
admission is not to be told.  After that only frames are written, and after a refusal nothing.

For every error of the judgement there is a status.  A head that has been read is never judged to
be incomplete or too large.  And whoever is accepted reads a response with the status 101, no body,
and the digest of the key. -/
theorem answers_head (config : Config) (application : Application) (peer : Address)
    (admission : Admission.Controller) (permit : Option Admission.Controller.Permit)
    (now admissionTime : Nat) (moves : List Move) {result : Except Error Bytes} :
    let c := (new config application peer admission permit now admissionTime).after moves
    c.headRead? = some result → c.writeFailure = none → c.flushFailure = none →
      (∀ later : List Move, ∃ frames : List Frame,
        writesOf (c.advance.after later).effects =
          (c.judgement result).writes ++ frames.map Frame.encode ∧
        ((∀ request, c.judgement result ≠ .accepted request) →
          frames = [] ∧ (c.advance.after later).isFinished = true)) ∧
      (∀ data e, config.policy.judge data = .error e → ∃ status, e.status? = some status) ∧
      (∀ head e, result = .ok head → config.policy.judge head = .error e →
        e ≠ .invalidHandshake .incomplete ∧ ∀ size max, e ≠ .requestTooLarge size max) ∧
      ∀ request, c.judgement result = .accepted request →
        ∃ response, Http.Response.decode (Bytes.ofText request.acceptResponse) = .ok response ∧
          response.status = 101 ∧ response.body = [] ∧
          response.headers.get? "Sec-WebSocket-Accept" = some (String.ofList
            (Base64.encode (Sha1.digest (Bytes.ofText (request.key ++ Upgrade.guid))))) := by
  intro c hread hwrites hflushes
  have hcourse : c.OnCourse := (onCourse_new ..).after moves
  obtain ⟨hconfig, -, -⟩ :=
    origin_after (new config application peer admission permit now admissionTime) moves
  have hlimits : c.codec.limits = c.config.limits := by
    rw [hconfig]
    exact limits_after _ moves
  obtain ⟨⟨deadline, hp⟩, -, codec, hstep⟩ := headRead?_eq_some_iff.mp hread
  have hanswered := answered_of_headRead? ⟨hwrites, hflushes⟩ hlimits hread
  refine ⟨fun later => ?_, fun data e => Upgrade.Policy.status?_of_judge, fun head e hhead he => ?_,
    fun request _ => request.decode_acceptResponse⟩
  · have hwritten := hanswered.writes
    rw [hcourse.writes_of_awaitingHead hp] at hwritten
    have hfirst : Answered [] c.advance (c.judgement result) :=
      { hanswered with writes := hwritten }
    exact hfirst.after (hcourse.after [.step]) later
  · subst hhead
    have hwhole := takeHead_of_stepHead hlimits hstep
    rw [hconfig] at hwhole
    exact (Upgrade.Policy.objects_judge hwhole e he).ne

/-- A peer whose request is accepted. -/
theorem answers_head_of_greeting :
    let g := Opening.greeting
    let start := new g.config g.application g.peer (.ofConfig .default) none 0 0
    let c := start.after [.step, .event (.deliver [g.head]), .step]
    c.headRead? = some (.ok g.head) ∧ c.writeFailure = none ∧ c.flushFailure = none ∧
      ∀ later : List Move, ∃ frames : List Frame, writesOf (c.advance.after later).effects =
        Bytes.ofText g.request.acceptResponse :: frames.map Frame.encode := by
  intro g start c
  have hread : c.headRead? = some (.ok g.head) := by decide +kernel
  have hconfig : c.config = g.config := (origin_after start _).1
  have hjudged : c.config.policy.judge g.head = .ok g.request := by rw [hconfig, g.judged]
  have hserve : c.mayServe g.request = true := mayServe_of_none (by decide +kernel)
  have haccepted : c.judgement (.ok g.head) = .accepted g.request :=
    (judgement_of_ok hjudged).trans (if_pos hserve)
  refine ⟨hread, rfl, rfl, fun later => ?_⟩
  obtain ⟨frames, hframes, -⟩ := (answers_head g.config g.application g.peer (.ofConfig .default) none 0 0
    [.step, .event (.deliver [g.head]), .step] hread rfl rfl).1 later
  rw [haccepted] at hframes
  exact ⟨frames, hframes⟩

end Connection
end WebSocket
