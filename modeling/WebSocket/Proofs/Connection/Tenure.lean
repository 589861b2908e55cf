import WebSocket.Connection.Tenancy

/-
What a connection keeps.  From one wait to the next it keeps its client and its permit, and leaves
the controller of admission alone (`Connection.Keeps`), until it ends and gives the permit back.
Only the handshake does more: it may pass the permit on, and tell the application of the
connection.  So every step but the handshake goes on or ends (`Connection.proceeds_of_step?`).
-/
namespace WebSocket

/-- An effect that neither passes a permit on nor gives it back, nor takes leave of the
application. -/
def Effect.IsPlain : Effect → Prop
  | .transfer _ _ _ => False
  | .release _ => False
  | .call (.disconnect _) => False
  | _ => True

namespace Connection

/-- A connection is the same to its client and to admission as before. -/
structure Keeps (c next : Connection) : Prop where
  client : next.client = c.client
  connected : next.connected = c.connected
  permit : next.permit = c.permit
  admission : next.admission = c.admission
  log : ∃ new, next.log = new ++ c.log ∧ ∀ e ∈ new, e.IsPlain

/-- A connection goes on as it was, or ends. -/
inductive Proceeds (c : Connection) : Connection → Prop
  | on {next : Connection} (keeps : c.Keeps next) (unfinished : next.phase ≠ .finished) :
    Proceeds c next
  | ends {last : Connection} (keeps : c.Keeps last) (verdict : Option Error) :
    Proceeds c (last.finish verdict)

variable {c d next : Connection}

/-! ## Single operations -/

theorem Keeps.refl (c : Connection) : c.Keeps c :=
  ⟨rfl, rfl, rfl, rfl, [], rfl, List.forall_mem_nil _⟩

theorem Keeps.trans (h : c.Keeps d) (h' : d.Keeps next) : c.Keeps next := by
  obtain ⟨new, hlog, hplain⟩ := h.log
  obtain ⟨new', hlog', hplain'⟩ := h'.log
  refine ⟨h'.client.trans h.client, h'.connected.trans h.connected, h'.permit.trans h.permit,
    h'.admission.trans h.admission, new' ++ new, ?_, fun e he => ?_⟩
  · rw [hlog', hlog, List.append_assoc]
  · rcases List.mem_append.mp he with he | he
    · exact hplain' e he
    · exact hplain e he

theorem keeps_withCodec (c : Connection) (codec : Codec) : c.Keeps { c with codec } :=
  ⟨rfl, rfl, rfl, rfl, [], rfl, List.forall_mem_nil _⟩

theorem keeps_withPhase (c : Connection) (phase : Phase) : c.Keeps { c with phase } :=
  ⟨rfl, rfl, rfl, rfl, [], rfl, List.forall_mem_nil _⟩

theorem keeps_emit (c : Connection) {e : Effect} (he : e.IsPlain) : c.Keeps (c.emit e) :=
  ⟨rfl, rfl, rfl, rfl, [e], rfl, List.forall_mem_singleton.mpr he⟩

theorem keeps_notify (c : Connection) {call : Call} (h : (Effect.call call).IsPlain) :
    c.Keeps (c.notify call) :=
  keeps_emit c h

theorem keeps_enter (c : Connection) (s : ConnectionState) : c.Keeps (c.enter s) :=
  ⟨rfl, rfl, rfl, rfl, [.enter s], rfl, List.forall_mem_singleton.mpr trivial⟩

theorem keeps_write (c : Connection) (data : Bytes) : c.Keeps (c.write data).1 := by
  rcases c.write_cases data with ⟨-, -, hw⟩ | ⟨failure, -, hw⟩ | ⟨failure, -, -, hw⟩ <;> rw [hw]
  · exact keeps_emit c trivial
  · exact keeps_emit c trivial
  · have hwritten : c.Keeps (c.emit (.write data)) := keeps_emit c trivial
    exact hwritten.trans (keeps_emit _ trivial)

theorem keeps_of_write {data : Bytes} {e : Option Error} (h : c.write data = (next, e)) :
    c.Keeps next := by
  have hkeeps := keeps_write c data
  rwa [h] at hkeeps

theorem keeps_report (c : Connection) (verdict : Option Error) : c.Keeps (c.report verdict) := by
  unfold report
  split
  · split
    · exact .refl c
    · exact keeps_notify c trivial
  · exact .refl c

/-! ## Ends -/

/-- The end of a connection that holds a permit: the permit is given back, and whatever is told to
the application of the end is told after that. -/
theorem finish_of_permit {permit : Admission.Controller.Permit} (h : c.permit = some permit)
    (verdict : Option Error) :
    (c.finish verdict).permit = none ∧ (c.finish verdict).client = c.client ∧
      (c.finish verdict).admission = c.admission.giveBack permit ∧
      ∃ farewell new, (c.finish verdict).log = farewell ++ .release permit.ip :: (new ++ c.log) ∧
        (∀ e ∈ new, e.IsPlain) ∧
          (farewell = [] ∨ ∃ client, farewell = [.call (.disconnect client)]) := by
  have hlast : c.Keeps (((c.report verdict).enter .closed).emit .shut) :=
    ((keeps_report c verdict).trans (keeps_enter _ .closed)).trans (keeps_emit _ trivial)
  have hfinish : c.finish verdict =
      { (((c.report verdict).enter .closed).emit .shut).releasePermit.farewell with
        phase := .finished } := rfl
  generalize ((c.report verdict).enter .closed).emit .shut = last at hlast hfinish
  obtain ⟨new, hlog, hplain⟩ := hlast.log
  have hrelease : last.releasePermit = { last with
      permit := none
      admission := last.admission.giveBack permit
      log := .release permit.ip :: last.log } := by
    simp only [releasePermit, hlast.permit, h, emit]
  rw [hfinish, hrelease, farewell]
  by_cases hc : last.connected
  · simp only [hc, if_true]
    refine ⟨rfl, hlast.client, congrArg (·.giveBack permit) hlast.admission,
      [.call (.disconnect last.client)], new, ?_, hplain, .inr ⟨_, rfl⟩⟩
    simp only [notify, emit, hlog]
    rfl
  · simp only [hc]
    refine ⟨rfl, hlast.client, congrArg (·.giveBack permit) hlast.admission, [], new, ?_, hplain,
      .inl rfl⟩
    simp only [hlog]
    rfl

/-- The end of a connection changes neither its client nor whether the application was told. -/
theorem client_finish (c : Connection) (verdict : Option Error) :
    (c.finish verdict).client = c.client ∧ (c.finish verdict).connected = c.connected := by
  have hlast := (keeps_report c verdict).trans (keeps_enter _ .closed)
  have hfinish : c.finish verdict =
      { (((c.report verdict).enter .closed).emit .shut).releasePermit.farewell with
        phase := .finished } := rfl
  rw [hfinish]
  unfold farewell releasePermit
  split <;> split <;> exact ⟨hlast.client, hlast.connected⟩

theorem Proceeds.of_keeps (h : c.Keeps d) (hp : d.Proceeds next) : c.Proceeds next := by
  cases hp with
  | on keeps unfinished => exact .on (h.trans keeps) unfinished
  | ends keeps verdict => exact .ends (h.trans keeps) verdict

/-- Whether it goes on or ends, a connection keeps its client. -/
theorem Proceeds.client (h : c.Proceeds next) :
    next.client = c.client ∧ next.connected = c.connected := by
  cases h with
  | on keeps => exact ⟨keeps.client, keeps.connected⟩
  | @ends last keeps verdict =>
    obtain ⟨hclient, hconnected⟩ := client_finish last verdict
    exact ⟨hclient.trans keeps.client, hconnected.trans keeps.connected⟩

theorem proceeds_finish (c : Connection) (verdict : Option Error) :
    c.Proceeds (c.finish verdict) :=
  .ends (.refl c) verdict

theorem proceeds_reject (c : Connection) (e : Error) : c.Proceeds (c.reject e) := by
  unfold reject
  split
  · exact .ends (keeps_write c _) _
  · exact proceeds_finish c _

theorem proceeds_closeWith (c : Connection) (code : CloseCode) (reason : String)
    (verdict : Option Error) (onFailure : Error → Option Error) :
    c.Proceeds (c.closeWith code reason verdict onFailure) := by
  unfold closeWith
  split
  · split <;> rename_i hw
    · exact .ends ((keeps_enter c .closing).trans (keeps_of_write hw)) _
    · refine .on (((keeps_enter c .closing).trans (keeps_of_write hw)).trans
        (keeps_withPhase _ _)) ?_
      exact Phase.noConfusion
  · exact proceeds_finish c _

theorem proceeds_fail (c : Connection) (e : Error) : c.Proceeds (c.fail e) := by
  unfold fail
  split
  · exact proceeds_closeWith ..
  · exact proceeds_finish c _

theorem proceeds_drained (c : Connection) (verdict : Option Error) :
    c.Proceeds (c.drained verdict) :=
  .ends (keeps_enter c .closed) verdict

/-! ## Messages -/

theorem proceeds_awaitFrame (c : Connection) : c.Proceeds c.awaitFrame :=
  .on (keeps_withPhase c _) Phase.noConfusion

theorem proceeds_reply (c : Connection) (reply : Option Frame) : c.Proceeds (c.reply reply) := by
  unfold Connection.reply
  split
  · exact proceeds_awaitFrame c
  · split <;> rename_i hw
    · exact .ends (keeps_of_write hw) _
    · exact .of_keeps (keeps_of_write hw) (proceeds_awaitFrame _)

theorem proceeds_part (c : Connection) (frame : Frame) (verdict : Option Error) :
    c.Proceeds ((((c.enter .closing).sendAnyway frame).enter .closed).finish verdict) :=
  .ends (((keeps_enter c .closing).trans (keeps_write _ _)).trans (keeps_enter _ .closed)) verdict

theorem proceeds_answer (c : Connection) (message : Message) : c.Proceeds (c.answer message) := by
  unfold answer
  split
  · refine .of_keeps ?_ (proceeds_reply ..)
    exact keeps_notify c trivial
  · refine .of_keeps ?_ (proceeds_reply ..)
    exact keeps_notify c trivial
  · exact proceeds_reply ..
  · exact proceeds_awaitFrame c
  · exact proceeds_part ..

theorem proceeds_dispatch (c : Connection) (frame : Frame) : c.Proceeds (c.dispatch frame) := by
  unfold dispatch
  split
  · exact proceeds_answer ..
  · split
    · exact proceeds_part ..
    · exact proceeds_fail ..

/-! ## Handshake -/

/-- An acceptance that cannot be sent ends the connection; else the application is told, and that is
all that changes. -/
theorem accept_cases (c : Connection) (request : Upgrade.Request) :
    (∃ last e, c.Keeps last ∧ c.accept request = last.finish (some e)) ∨
      ∃ opened, c.Keeps opened ∧ c.accept request = { opened with connected := true } ∧
        opened.phase ≠ .finished := by
  unfold accept
  split <;> rename_i hw
  · exact .inl ⟨_, _, keeps_of_write hw, rfl⟩
  · rename_i written
    have hentered : c.Keeps (written.enter .open) :=
      (keeps_of_write hw).trans (keeps_enter _ .open)
    have htold : c.Keeps ((written.enter .open).notify (.connect written.client)) :=
      hentered.trans (keeps_notify _ trivial)
    exact .inr ⟨_, htold.trans (keeps_withPhase _ _), rfl, Phase.noConfusion⟩

/-- Identifying the client passes the permit on at most, or tries to.  The client changes when the
permit does. -/
theorem identified_of_permit {permit : Admission.Controller.Permit} (h : c.permit = some permit)
    (head : Bytes) :
    c.Keeps (c.identified head).1 ∨ ∃ target decision passed admission,
      c.admission.transferPermit permit target c.admissionTime = (decision, passed, admission) ∧
        (c.identified head).1 = { c.enter .handshaking with
          client := if decision = .admitted then target else c.client
          permit := some passed
          admission
          log := .transfer c.client target decision :: (c.enter .handshaking).log } := by
  have hkeeps := keeps_enter c .handshaking
  unfold identified
  simp only
  split
  · exact .inl hkeeps
  · rename_i request _
    rcases (c.enter .handshaking).reidentify_cases request with ⟨-, hre⟩ | ⟨hnone, -⟩ |
      ⟨found, passed, admission, hfound, ht, hre⟩ |
      ⟨found, kept, admission, decision, hfound, hd, ht, hre⟩
    · simp only [hre]
      exact .inl hkeeps
    · rw [hkeeps.permit, h] at hnone
      cases hnone
    · obtain rfl : permit = found := Option.some.inj (h.symm.trans hfound)
      simp only [hre]
      exact .inr ⟨_, _, _, _, ht, rfl⟩
    · obtain rfl : permit = found := Option.some.inj (h.symm.trans hfound)
      simp only [hre]
      refine .inr ⟨_, _, _, _, ht, ?_⟩
      rw [if_neg hd]
      rfl

theorem phase_identified (c : Connection) (head : Bytes) :
    (c.identified head).1.phase = c.phase := by
  unfold identified
  simp only
  split
  · rfl
  · rename_i request _
    rcases (c.enter .handshaking).reidentify_cases request with ⟨-, hre⟩ | ⟨-, hre⟩ |
      ⟨_, _, _, -, -, hre⟩ | ⟨_, _, _, _, -, -, -, hre⟩ <;> simp only [hre] <;> rfl

/-- A request that stands is the one that was judged, and the client is the one it names. -/
theorem client_identified (c : Connection) (head : Bytes) :
    (c.identified head).1.connected = c.connected ∧
      ∀ request, (c.identified head).2 = .ok request → c.config.policy.judge head = .ok request ∧
        (c.identified head).1.client = Http.identify c.peer request.headers := by
  have hjudge : (c.enter .handshaking).config.policy.judge head = c.config.policy.judge head := rfl
  unfold identified
  simp only [hjudge]
  cases hj : c.config.policy.judge head with
  | error e => exact ⟨rfl, fun _ h => nomatch h⟩
  | ok found =>
    rcases (c.enter .handshaking).reidentify_cases found with ⟨hsame, hre⟩ | ⟨-, hre⟩ |
      ⟨permit, passed, admission, -, -, hre⟩ | ⟨permit, kept, admission, decision, -, -, -, hre⟩ <;>
      simp only [hre]
    · refine ⟨rfl, fun request h => ?_⟩
      cases h
      exact ⟨rfl, hsame.symm⟩
    · refine ⟨rfl, fun request h => ?_⟩
      cases h
      exact ⟨rfl, rfl⟩
    · refine ⟨rfl, fun request h => ?_⟩
      cases h
      exact ⟨rfl, rfl⟩
    · exact ⟨rfl, fun _ h => nomatch h⟩

/-! ## Steps -/

theorem FrameStep.proceeds {deadline : Option Nat} (hp : c.phase = .awaitingFrame deadline)
    (h : FrameStep c deadline next) : c.Proceeds next := by
  cases h with
  | stop => exact proceeds_closeWith ..
  | found => exact .of_keeps (keeps_withCodec c _) (proceeds_dispatch ..)
  | timedOut => exact .of_keeps (keeps_withCodec c _) (proceeds_closeWith ..)
  | failed => exact .of_keeps (keeps_withCodec c _) (proceeds_fail ..)
  | more => exact .on (keeps_withCodec c _) (by simp [hp])
  | late => exact proceeds_closeWith ..

theorem DrainStep.proceeds {deadline : Nat} {verdict : Option Error}
    (hp : c.phase = .draining deadline verdict) (h : DrainStep c deadline verdict next) :
    c.Proceeds next := by
  cases h with
  | closed => exact .of_keeps (keeps_withCodec c _) (proceeds_drained ..)
  | passed => exact .on (keeps_withCodec c _) (by simp [hp])
  | failed => exact .of_keeps (keeps_withCodec c _) (proceeds_drained ..)
  | more => exact .on (keeps_withCodec c _) (by simp [hp])
  | late => exact proceeds_drained ..

/-- A step goes on or ends, unless it takes up the head of the request. -/
theorem proceeds_of_step? (h : c.step? = some next) :
    c.Proceeds next ∨ ∃ deadline head codec, c.phase = .awaitingHead deadline ∧
      c.stopping = false ∧ c.codec.stepHead = .done (.ok head) codec ∧
        next = handshake { c with codec } head := by
  unfold step? at h
  split at h
  · cases h
    exact .inl (.on (keeps_withPhase c _) Phase.noConfusion)
  · rename_i deadline hp
    cases headStep h with
    | stop => exact .inl (proceeds_finish c none)
    | found running read => exact .inr ⟨deadline, _, _, hp, running, read, rfl⟩
    | failed => exact .inl (.of_keeps (keeps_withCodec c _) (proceeds_reject ..))
    | more => exact .inl (.on (keeps_withCodec c _) (by simp [hp]))
    | late => exact .inl (proceeds_reject ..)
  · rename_i hp
    exact .inl ((frameStep h).proceeds hp)
  · rename_i hp
    exact .inl ((drainStep h).proceeds hp)
  · cases h

end Connection
end WebSocket
