import WebSocket.Proofs.Connection.Output
import WebSocket.Proofs.Connection.Tenure
import WebSocket.Proofs.Transport.Scan

/-
The order in which a connection calls the application.  Each stage of the course says which calls
have been made by then (`Stage.Told`), and the application knows of a connection from the moment at
which the acceptance has been flushed (`Stage.Course.acknowledged_iff`).  The request that is
accepted is the one at the front of what the peer has sent (`Connection.Heard`), so all the calls
are made on behalf of the client that this request names.
-/
namespace WebSocket

namespace Call

/-- A call that tells the application of a message of a client. -/
def Brings (client : String) : Call → Prop
  | .message known _ => known = client
  | .binary known _ => known = client
  | _ => False

/-- The calls of a connection that the application never knows of: an error at most. -/
def Unopened (calls : List Call) : Prop :=
  calls = [] ∨ ∃ client e, calls = [.error client e]

/-- The calls of a connection that the application knows of, all on behalf of one client: it is told
of the connection, then of messages, perhaps of an error, and of the end. -/
def Opened (client : String) (calls : List Call) : Prop :=
  ∃ messages errors, calls = .connect client :: messages ++ errors ++ [.disconnect client] ∧
    (∀ call ∈ messages, call.Brings client) ∧ (errors = [] ∨ ∃ e, errors = [.error client e])

theorem Unopened.not_connect {calls : List Call} (h : Unopened calls) :
    ¬ ∃ client, Call.connect client ∈ calls := by
  rintro ⟨client, hmem⟩
  rcases h with rfl | ⟨name, e, rfl⟩
  · cases hmem
  · cases List.mem_singleton.mp hmem

theorem Opened.connect {client : String} {calls : List Call} (h : Opened client calls) :
    ∃ client, Call.connect client ∈ calls := by
  obtain ⟨messages, errors, rfl, -⟩ := h
  exact ⟨client, List.mem_cons_self⟩

end Call

namespace Effect

/-- An effect that writes what accepts a request. -/
def Accepts (e : Effect) : Prop :=
  ∃ request : Upgrade.Request, e = .write (Bytes.ofText request.acceptResponse)

end Effect

namespace Connection

/-- What accepts a request has been written and flushed: a flush that fails does so at once. -/
def Acknowledged (effects : List Effect) : Prop :=
  ∃ before accept next after, effects = before ++ accept :: next :: after ∧ accept.Accepts ∧
    next ≠ .flushFailed

/-- One more effect acknowledges a request when it follows what accepts the request. -/
theorem acknowledged_cons_iff {log : List Effect} {e : Effect} :
    Acknowledged (e :: log).reverse ↔ Acknowledged log.reverse ∨
      (∃ accept rest, log = accept :: rest ∧ accept.Accepts) ∧ e ≠ .flushFailed := by
  rw [List.reverse_cons]
  constructor
  · rintro ⟨before, accept, next, after, heq, haccept, hnext⟩
    rcases append_eq_append_cons heq with hnil | ⟨middle, hafter, hearlier⟩
    · cases hnil
    · cases middle with
      | nil =>
        obtain ⟨rfl, rfl⟩ := List.cons.inj hafter
        refine .inr ⟨⟨accept, before.reverse, ?_, haccept⟩, hnext⟩
        rw [← List.reverse_reverse log, hearlier, List.reverse_append]
        rfl
      | cons first middle =>
        obtain ⟨rfl, rfl⟩ := List.cons.inj hafter
        exact .inl ⟨before, accept, next, middle, hearlier, haccept, hnext⟩
  · rintro (⟨before, accept, next, after, heq, haccept, hnext⟩ | ⟨⟨accept, rest, rfl, haccept⟩, hnext⟩)
    · exact ⟨before, accept, next, after ++ [e], by rw [heq]; simp, haccept, hnext⟩
    · exact ⟨rest.reverse, accept, e, [], by simp, haccept, hnext⟩

/-- No refusal accepts a request: the first digit of the status tells them apart. -/
theorem refusalBytes_ne_acceptResponse {status : Http.Status} (h : 400 ≤ status.code)
    (request : Upgrade.Request) :
    status.refusalBytes ≠ Bytes.ofText request.acceptResponse := by
  have haccept : (Bytes.ofText request.acceptResponse).take 10 = Bytes.ofText "HTTP/1.1 1" := by
    obtain ⟨rest, hrest⟩ := exists_acceptResponse_eq request
    rw [hrest, List.take_append_of_le_length (by decide)]
    decide
  intro heq
  rw [← heq] at haccept
  revert haccept
  cases status with
  | switchingProtocols => exact absurd h (by decide)
  | _ => decide

end Connection

/-! ## Stages -/

namespace Stage

open Connection (callsOf Acknowledged)

/-- The calls up to any error: nothing, or the client that the application knows of and its
messages. -/
def Greeted (calls : List Call) : Option String → Prop
  | none => calls = []
  | some client =>
    ∃ messages, calls = .connect client :: messages ∧ ∀ call ∈ messages, call.Brings client

/-- The calls up to the farewell: there may be an error, which is that of the client if the
application knows of one. -/
def Reported (calls : List Call) (known : Option String) : Prop :=
  ∃ earlier errors, calls = earlier ++ errors ∧ Greeted earlier known ∧
    (errors = [] ∨ ∃ client e, errors = [.error client e] ∧ ∀ name, known = some name → client = name)

/-- The calls that have been made by a stage. -/
def Told (calls : List Call) : Stage → Prop
  | .reported known => Reported calls known
  | .shut known => Reported calls known
  | .released known => Reported calls known
  | .gone client => Call.Opened client calls
  | s => Greeted calls s.known

/-- Whether the acceptance has been flushed. -/
def IsOpen (s : Stage) : Prop :=
  s.known.isSome = true ∨ ∃ client, s = .opened client

variable {config : Config} {application : Application} {peer : Address} {s t : Stage} {e : Effect}
  {effects : List Effect} {log : List Effect}

/-- Where a connection may end no error has been reported. -/
theorem Told.greeted {calls : List Call} (h : s.Told calls) (hs : s.MayFail) :
    Greeted calls s.known := by
  rcases hs with hs | ⟨client, rfl⟩
  · cases s with
    | reported known => cases hs
    | shut known => cases hs
    | released known => cases hs
    | gone client => cases hs
    | _ => exact h
  · exact h

theorem Greeted.reported {calls : List Call} {known : Option String} (h : Greeted calls known) :
    Reported calls known :=
  ⟨calls, [], (List.append_nil calls).symm, h, .inl rfl⟩

theorem Greeted.brings {calls : List Call} {client : String} {call : Call}
    (h : Greeted calls (some client)) (hc : call.Brings client) :
    Greeted (calls ++ [call]) (some client) := by
  obtain ⟨messages, rfl, hmessages⟩ := h
  refine ⟨messages ++ [call], rfl, fun other hother => ?_⟩
  rcases List.mem_append.mp hother with hother | hother
  · exact hmessages other hother
  · rw [List.mem_singleton.mp hother]
    exact hc

theorem Reported.opened {calls : List Call} {client : String} (h : Reported calls (some client)) :
    Call.Opened client (calls ++ [.disconnect client]) := by
  obtain ⟨earlier, errors, rfl, ⟨messages, rfl, hmessages⟩, herrors⟩ := h
  refine ⟨messages, errors, rfl, hmessages, ?_⟩
  rcases herrors with rfl | ⟨name, e, rfl, hname⟩
  · exact .inl rfl
  · exact .inr ⟨e, by rw [hname client rfl]⟩

theorem Reported.unopened {calls : List Call} (h : Reported calls none) : Call.Unopened calls := by
  obtain ⟨earlier, errors, rfl, rfl, rfl | ⟨client, e, rfl, -⟩⟩ := h
  · exact .inl rfl
  · exact .inr ⟨client, e, rfl⟩

/-- When all is done, the application has been seen off or never knew of the connection. -/
theorem Told.of_isOver {calls : List Call} (h : s.Told calls) (hs : s.IsOver) :
    (Call.Unopened calls ∧ s.known = none ∧ ¬ s.IsOpen) ∨
      ∃ client, Call.Opened client calls ∧ s.known = some client ∧ s.IsOpen := by
  cases s with
  | shut known =>
    obtain rfl : known = none := hs
    exact .inl ⟨Reported.unopened h, rfl, by simp [IsOpen, Stage.known]⟩
  | released known =>
    obtain rfl : known = none := hs
    exact .inl ⟨Reported.unopened h, rfl, by simp [IsOpen, Stage.known]⟩
  | gone client => exact .inr ⟨client, h, rfl, .inl rfl⟩
  | _ => exact absurd hs id

/-- What a connection does at a stage leads to the calls of the next. -/
theorem Told.does (h : s.Told (callsOf effects)) (hd : Does config application peer s e t) :
    t.Told (callsOf (effects ++ [e])) := by
  have hquiet : callsOf [e] = [] → callsOf (effects ++ [e]) = callsOf effects := fun he => by
    rw [Connection.callsOf_append, he, List.append_nil]
  cases hd with
  | judge | transfer | accept | «open» => exact (hquiet rfl).trans h
  | refuse hs _ => rcases hs with rfl | rfl <;> exact (hquiet rfl).trans h
  | connect =>
    refine ⟨[], ?_, List.forall_mem_nil _⟩
    rw [Connection.callsOf_append, show callsOf effects = [] from h]
    rfl
  | message | binary =>
    rw [Connection.callsOf_append]
    exact Greeted.brings h rfl
  | answer | part | close | leaveReported | release =>
    rw [hquiet rfl]
    exact h
  | writeFailed hs =>
    rw [hquiet rfl]
    exact h.greeted (.inl hs)
  | flushFailed hs =>
    rw [hquiet rfl]
    exact h.greeted hs
  | leave hs =>
    rw [hquiet rfl]
    exact h.greeted (.inl hs)
  | report hs hclient =>
    rw [Connection.callsOf_append]
    exact ⟨_, _, rfl, h.greeted (.inl hs), .inr ⟨_, _, rfl, hclient⟩⟩
  | shut hs =>
    rw [hquiet rfl]
    rcases hs with rfl | rfl
    · exact Greeted.reported h
    · exact h
  | disconnect hs =>
    rw [Connection.callsOf_append]
    rcases hs with rfl | rfl <;> exact Reported.opened h

theorem Course.told (h : Course config application peer log s) : s.Told (callsOf log.reverse) := by
  induction h with
  | start => rfl
  | next _ hd ih =>
    rw [List.reverse_cons]
    exact ih.does hd

/-! ## Acceptance -/

/-- No answer accepts a request, as it has no reserved bit set. -/
theorem Answers.not_accepts {frame : Frame} (h : Answers application frame) :
    ¬ (Effect.write frame.encode).Accepts := by
  rintro ⟨request, heq⟩
  have hrsv1 : frame.rsv1 = false := by cases h <;> rfl
  exact Connection.encode_ne_acceptResponse_of_rsv1 hrsv1 request (Effect.write.inj heq)

/-- Only an acceptance leads to the stage at which the request has been accepted. -/
theorem Does.accepts_iff (hd : Does config application peer s e t) :
    e.Accepts ↔ ∃ client, t = .accepted client := by
  cases hd with
  | accept => exact iff_of_true ⟨_, rfl⟩ ⟨_, rfl⟩
  | refuse _ hcode =>
    refine iff_of_false ?_ (fun ⟨_, h⟩ => nomatch h)
    rintro ⟨request, heq⟩
    exact Connection.refusalBytes_ne_acceptResponse hcode request (Effect.write.inj heq)
  | answer h => exact iff_of_false h.not_accepts (fun ⟨_, h⟩ => nomatch h)
  | @close _ content =>
    refine iff_of_false ?_ (fun ⟨_, h⟩ => nomatch h)
    rintro ⟨request, heq⟩
    have hrsv1 : (Message.close content).toFrame.rsv1 = false := by cases content <;> rfl
    exact Connection.encode_ne_acceptResponse_of_rsv1 hrsv1 request (Effect.write.inj heq)
  | _ => exact iff_of_false (fun ⟨_, h⟩ => nomatch h) (fun ⟨_, h⟩ => nomatch h)

theorem Course.accepts_head_iff (h : Course config application peer log s) :
    (∃ accept rest, log = accept :: rest ∧ accept.Accepts) ↔ ∃ client, s = .accepted client := by
  cases h with
  | start => exact iff_of_false (fun ⟨_, _, h, _⟩ => nomatch h) (fun ⟨_, h⟩ => nomatch h)
  | next h hd =>
    rw [← hd.accepts_iff]
    constructor
    · rintro ⟨accept, rest, heq, haccept⟩
      obtain ⟨rfl, rfl⟩ := List.cons.inj heq
      exact haccept
    · intro haccept
      exact ⟨_, _, rfl, haccept⟩

theorem isOpen_iff_of_mayFail (hs : s.MayFail) : s.IsOpen ↔ s.known.isSome = true := by
  refine or_iff_left ?_
  rintro ⟨client, rfl⟩
  rcases hs with hs | ⟨_, hs⟩
  · exact hs
  · cases hs

theorem not_accepted_of_mayEnd (hs : s.MayEnd) : ¬ ∃ client, s = .accepted client := by
  rintro ⟨client, rfl⟩
  exact hs

/-- A stage is open when the one before it is, or when it follows the acceptance and no flush has
failed. -/
theorem Does.isOpen_iff (hd : Does config application peer s e t) :
    t.IsOpen ↔ s.IsOpen ∨ (∃ client, s = .accepted client) ∧ e ≠ .flushFailed := by
  cases hd with
  | refuse hs => rcases hs with rfl | rfl <;> simp [IsOpen, known]
  | writeFailed hs =>
    rw [isOpen_iff_of_mayFail (.inl hs)]
    simp [IsOpen, known, not_accepted_of_mayEnd hs]
  | flushFailed hs =>
    rw [isOpen_iff_of_mayFail hs]
    simp [IsOpen, known]
  | leave hs =>
    rw [isOpen_iff_of_mayFail (.inl hs)]
    simp [IsOpen, known, not_accepted_of_mayEnd hs]
  | report hs =>
    rw [isOpen_iff_of_mayFail (.inl hs)]
    simp [IsOpen, known, not_accepted_of_mayEnd hs]
  | shut hs => rcases hs with rfl | rfl <;> simp [IsOpen, known]
  | disconnect hs => rcases hs with rfl | rfl <;> simp [IsOpen, known]
  | _ => simp [IsOpen, known]

/-- The acceptance has been flushed exactly at the stages that say so. -/
theorem Course.acknowledged_iff (h : Course config application peer log s) :
    Acknowledged log.reverse ↔ s.IsOpen := by
  induction h with
  | start =>
    refine iff_of_false ?_ ?_
    · rintro ⟨before, accept, next, after, heq, -, -⟩
      simp at heq
    · rintro (h | ⟨client, h⟩) <;> cases h
  | next h hd ih => rw [Connection.acknowledged_cons_iff, ih, h.accepts_head_iff, hd.isOpen_iff]

end Stage

/-! ## The client -/

namespace Connection

/-- What a connection makes of a stream: it is still to be read while the head is awaited, and once
the application knows of a client, that is the one of the request at the front. -/
structure Heard (c : Connection) (stream : Bytes) : Prop where
  unread : 3 ≤ c.phase.rank → c.codec.unread = stream
  client : c.connected = true → ∃ request, c.config.policy.judge stream = .ok request ∧
    c.client = Http.identify c.peer request.headers

variable {c next : Connection} {stream : Bytes}

/-- While the head is awaited the application does not know of the connection. -/
theorem OnCourse.connected_of_rank (h : c.OnCourse) (hrank : 3 ≤ c.phase.rank) :
    c.connected = false := by
  obtain ⟨s, -, hat⟩ := h
  unfold IsAt at hat
  cases hp : c.phase with
  | accepted =>
    simp only [hp] at hat
    exact hat.2.2
  | awaitingHead deadline =>
    simp only [hp] at hat
    exact hat.2.2
  | _ => simp [hp, Phase.rank] at hrank

/-- After the handshake the application knows of the client of the request. -/
theorem client_handshake {head : Bytes} (hc : c.connected = false)
    (h : (c.handshake head).connected = true) :
    ∃ request, c.config.policy.judge head = .ok request ∧
      (c.handshake head).client = Http.identify c.peer request.headers := by
  obtain ⟨hconnected, hclient⟩ := c.client_identified head
  rw [hc] at hconnected
  rw [handshake_eq] at h ⊢
  generalize (c.identified head).1 = d at *
  cases houtcome : (c.identified head).2 with
  | error e =>
    have hreject := (proceeds_reject d e).client.2
    rw [houtcome, conclude, hreject, hconnected] at h
    cases h
  | ok request =>
    obtain ⟨hjudge, hidentify⟩ := hclient request houtcome
    rw [houtcome, conclude] at h
    refine ⟨request, hjudge, ?_⟩
    rw [conclude]
    rcases d.accept_cases request with ⟨last, e, hkeeps, heq⟩ | ⟨opened, hkeeps, heq, -⟩
    · rw [heq, (client_finish last _).2, hkeeps.connected, hconnected] at h
      cases h
    · rw [heq]
      exact hkeeps.client.trans hidentify

/-- The head that a connection takes up is judged as all that is unread is. -/
theorem judge_unread {head : Bytes} {codec : Codec}
    (h : c.codec.stepHead = .done (.ok head) codec) (policy : Upgrade.Policy) :
    policy.judge head = policy.judge c.codec.unread := by
  obtain ⟨rest, hscan, -⟩ := Codec.step_ok h
  obtain ⟨n, hn, -, rfl, -⟩ := scanHead_eq_found_iff.mp hscan
  rw [Codec.unread, Upgrade.Policy.judge_append hn, Upgrade.Policy.judge_take hn]

/-- While the head is awaited nothing is used up. -/
theorem unread_of_step? (hs : c.step? = some next) (hrank : 3 ≤ c.phase.rank)
    (hnext : 3 ≤ next.phase.rank) : next.codec.unread = c.codec.unread := by
  unfold step? at hs
  split at hs
  · cases hs
    rfl
  · cases headStep hs with
    | stop => simp [Phase.rank] at hnext
    | @found head codec =>
      have hle := rank_handshake_le { c with codec } head
      omega
    | failed => simp [Phase.rank] at hnext
    | more _ read => exact Codec.unread_of_step_more read
    | late => simp [Phase.rank] at hnext
  · rename_i hp
    simp [hp, Phase.rank] at hrank
  · rename_i hp
    simp [hp, Phase.rank] at hrank
  · cases hs

theorem Heard.step (h : c.Heard stream) (hon : c.OnCourse) (hs : c.step? = some next) :
    next.Heard stream := by
  obtain ⟨codec, -, hg⟩ := exists_ground_of_step? hs
  have hconfig : next.config = c.config := congrArg Ground.config hg
  have hpeer : next.peer = c.peer := congrArg Ground.peer hg
  rcases proceeds_of_step? hs with hp | ⟨deadline, head, codec, hp, hrun, hread, rfl⟩
  · obtain ⟨hclient, hconnected⟩ := hp.client
    refine ⟨fun hrank => ?_, fun htold => ?_⟩
    · have hearly : 3 ≤ c.phase.rank := Nat.le_trans hrank (rank_le_of_step? hs)
      rw [unread_of_step? hs hearly hrank]
      exact h.unread hearly
    · rw [hconfig, hpeer, hclient]
      exact h.client (hconnected ▸ htold)
  · have hearly : 3 ≤ c.phase.rank := by simp [hp, Phase.rank]
    have hunread : c.codec.unread = stream := h.unread hearly
    have hc : c.connected = false := hon.connected_of_rank hearly
    refine ⟨fun hrank => ?_, fun htold => ?_⟩
    · have hle := rank_handshake_le { c with codec } head
      omega
    · obtain ⟨request, hjudge, hclient⟩ := client_handshake (c := { c with codec }) hc htold
      rw [hconfig, hpeer, ← hunread, ← judge_unread hread]
      exact ⟨request, hjudge, hclient⟩

/-- What happens outside may bring more of the stream. -/
theorem Heard.move (h : c.Heard stream) {m : Move} (hm : m ≠ .step) :
    (c.move m).Heard (stream ++ m.chunks.flatten) := by
  have hin := sameInside_move hm c
  refine ⟨fun hrank => ?_, fun htold => ?_⟩
  · rw [hin.phase] at hrank
    have hunread := h.unread hrank
    cases m with
    | step => exact absurd rfl hm
    | event e =>
      cases e with
      | deliver chunks =>
        show c.codec.buffer ++ (c.codec.inbox.deliver chunks).bytes = _
        rw [Inbox.bytes_deliver, ← List.append_assoc, ← hunread]
        rfl
      | failRead failure =>
        have hpush : (c.codec.inbox.push (.failure failure)).bytes = c.codec.inbox.bytes := by
          simp [Inbox.bytes, Inbox.push]
        show c.codec.buffer ++ (c.codec.inbox.push (.failure failure)).bytes = stream ++ []
        rw [hpush, List.append_nil, ← hunread]
        rfl
      | _ => exact hunread.trans (List.append_nil stream).symm
    | _ => exact hunread.trans (List.append_nil stream).symm
  · rw [hin.connected] at htold
    obtain ⟨request, hjudge, hclient⟩ := h.client htold
    obtain ⟨n, hn⟩ := Upgrade.Policy.isSome_headSize?_of_judge hjudge
    rw [hin.config, hin.peer, hin.client, Upgrade.Policy.judge_append hn]
    exact ⟨request, hjudge, hclient⟩

theorem Heard.after (h : c.Heard stream) (hon : c.OnCourse) (moves : List Move) :
    (c.after moves).Heard (stream ++ delivered moves) := by
  induction moves generalizing c stream with
  | nil =>
    rw [show delivered [] = [] from rfl, List.append_nil]
    exact h
  | cons m moves ih =>
    have hcons : stream ++ delivered (m :: moves) =
        stream ++ m.chunks.flatten ++ delivered moves := by
      rw [delivered, List.flatMap_cons, List.flatten_append, List.append_assoc]
      rfl
    rw [hcons]
    by_cases hm : m = .step
    · subst hm
      show (after (c.step?.getD c) moves).Heard (stream ++ [] ++ delivered moves)
      rw [List.append_nil]
      cases hs : c.step? with
      | none => exact ih h hon
      | some next => exact ih (h.step hon hs) (hon.step hs)
    · exact ih (h.move hm) (hon.of_sameInside (sameInside_move hm c))

/-! ## Runs -/

/-- Whatever arrives and whatever fails, a connection that is over has called the application in
order.  Either there was an error at most; or the client came, there were messages, perhaps an
error, and the client left, all on behalf of the client that the request names which the peer has
sent.  The client came exactly if what accepts the request was written and flushed. -/
theorem calls_of_isFinished (config : Config) (application : Application) (peer : Address)
    (admission : Admission.Controller) (permit : Option Admission.Controller.Permit)
    (now admissionTime : Nat) (moves : List Move)
    (h : ((new config application peer admission permit now admissionTime).after moves).isFinished =
      true) :
    let effects :=
      ((new config application peer admission permit now admissionTime).after moves).effects
    (Call.Unopened (callsOf effects) ∨
        ∃ request, config.policy.judge (delivered moves) = .ok request ∧
          Call.Opened (Http.identify peer request.headers) (callsOf effects)) ∧
      ((∃ client, Call.connect client ∈ callsOf effects) ↔ Acknowledged effects) := by
  intro effects
  have hstart : (new config application peer admission permit now admissionTime).OnCourse :=
    onCourse_new ..
  have hheard : (new config application peer admission permit now admissionTime).Heard [] :=
    ⟨fun _ => rfl, fun h => nomatch h⟩
  obtain ⟨hconfig, -, hpeer⟩ :=
    origin_after (new config application peer admission permit now admissionTime) moves
  have hclient := (hheard.after hstart moves).client
  obtain ⟨s, hf, hat⟩ := hstart.after moves
  rw [hconfig, hpeer] at hclient
  have hp : ((new config application peer admission permit now admissionTime).after moves).phase =
    .finished := eq_of_beq h
  simp only [IsAt, hp] at hat
  have hack := Stage.Course.acknowledged_iff hf
  rcases (Stage.Course.told hf).of_isOver hat.1 with ⟨hcalls, -, hopen⟩ | ⟨client, hcalls, hs, hopen⟩
  · exact ⟨.inl hcalls, iff_of_false hcalls.not_connect fun ha => hopen (hack.mp ha)⟩
  · have hknown := hat.2.1.symm.trans hs
    unfold known at hknown
    split at hknown
    · rename_i hc
      obtain ⟨request, hjudge, hidentify⟩ := hclient hc
      have hsame : client = Http.identify peer request.headers :=
        (Option.some.inj hknown).symm.trans hidentify
      exact ⟨.inr ⟨request, hjudge, hsame ▸ hcalls⟩, iff_of_true hcalls.connect (hack.mpr hopen)⟩
    · cases hknown

/-- A client that sends a text and a close frame. -/
theorem calls_of_isFinished_of_text :
    let g := Opening.greeting
    let moves : List Move := [.step, .event (.deliver [g.head]), .step, .step,
      .event (.deliver [[0x81, 0x82, 0, 0, 0, 0, 0x68, 0x69, 0x88, 0x80, 0, 0, 0, 0]]), .step, .step,
      .step]
    let c := (new g.config .silent g.peer (.ofConfig .default) none 0 0).after moves
    (c.isFinished = true ∧ callsOf c.effects =
        [.connect "127.0.0.1", .message "127.0.0.1" "hi", .disconnect "127.0.0.1"]) ∧
      (Call.Unopened (callsOf c.effects) ∨
        ∃ request, g.config.policy.judge (delivered moves) = .ok request ∧
          Call.Opened (Http.identify g.peer request.headers) (callsOf c.effects)) ∧
      ((∃ client, Call.connect client ∈ callsOf c.effects) ↔ Acknowledged c.effects) := by
  intro g moves c
  have hrun : c.isFinished = true ∧ callsOf c.effects =
      [.connect "127.0.0.1", .message "127.0.0.1" "hi", .disconnect "127.0.0.1"] := by decide +kernel
  exact ⟨hrun,
    calls_of_isFinished g.config .silent g.peer (.ofConfig .default) none 0 0 moves hrun.1⟩

end Connection
end WebSocket
