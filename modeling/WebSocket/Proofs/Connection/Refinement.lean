import WebSocket.Proofs.Connection.Interpretation

/-
Whole runs against the interpreter.  Each step of an undisturbed connection keeps what has been
seen and what is still to come in agreement with the interpreter, or sets the connection back
(`Opening.Undisturbed.step`), and so does everything that happens between steps
(`Opening.Undisturbed.move`).  So when a run is over, what has been seen of it is what the
interpreter makes of the whole stream.
-/
namespace WebSocket
namespace Opening

open Connection (reported)

/-- A connection does what the interpreter says, or has been set back. -/
def Standing (o : Opening) (c : Connection) (future : Bytes) : Prop :=
  o.Agrees c future ∨ SetBack c

variable {o : Opening} {c next : Connection} {future : Bytes}

/-! ## Setbacks -/

/-- A wait that took too long is reported at the end. -/
theorem setBack_finish (c : Connection) (fault : TimeoutFault) :
    SetBack (c.finish (some (.timeout fault))) := by
  have hreported : .call (.error c.client (.timeout fault)) ∈
      reported c.client (some (.timeout fault)) := List.mem_singleton.mpr rfl
  have hadds := Connection.adds_finish c (some (.timeout fault))
  exact ⟨_, hadds.mem_log_of_shown (List.mem_append_left _ hreported), rfl⟩

theorem setBack_reject (c : Connection) (fault : TimeoutFault) :
    SetBack (c.reject (.timeout fault)) := by
  obtain ⟨last, shown, -, heq⟩ := c.reject_eq_finish (.timeout fault)
  rw [heq]
  exact setBack_finish last fault

/-- A refusal that follows a setback leaves it in the log. -/
theorem setBack_reject_of_mem {c : Connection} (error : Error) {e : Effect} (he : e ∈ c.log)
    (hset : e.isSetback = true) : SetBack (c.reject error) := by
  obtain ⟨last, shown, hadds, heq⟩ := c.reject_eq_finish error
  rw [heq]
  exact ⟨e, (Connection.adds_finish last _).mem_log (hadds.mem_log he), hset⟩

theorem Answering.setBack_expire (h : o.Answering c) (hu : o.Undisturbed c future)
    (fault : TimeoutFault) : SetBack (c.expire (.timeout fault)) := by
  have hsend : c.state.canSend = true := by rw [h.state]; rfl
  simp only [Connection.expire, Connection.closeWith, hsend, if_true, Connection.send,
    (hu.enter .closing).write]
  exact ⟨fault, rfl⟩

theorem setBack_drained {verdict : Option Error} (h : ∃ fault, verdict = some (.timeout fault)) :
    SetBack (c.drained verdict) := by
  obtain ⟨fault, rfl⟩ := h
  exact setBack_finish (c.enter .closed) fault

/-! ## The handshake -/

/-- A request that is accepted is answered, and the application is told of the client. -/
theorem Undisturbed.agrees_accept (hu : o.Undisturbed c future) (hclient : c.client = o.client)
    (hvisible : c.visible = []) (hrest : c.codec.unread ++ future = o.rest) :
    o.Agrees (c.accept o.request) future := by
  simp only [Connection.accept, hu.write]
  refine ⟨⟨hclient, rfl, rfl⟩, ?_⟩
  let response := Bytes.ofText o.request.acceptResponse
  let opened := { (c.emit (.write response)).enter .open with connected := true }
  have hadds : c.Adds (opened.notify (.connect c.client))
      [.write response, .call (.connect c.client)] :=
    ⟨[.call (.connect c.client), .enter .open, .write response], rfl, rfl⟩
  show (opened.notify (.connect c.client)).visible ++
    o.continues (opened.notify (.connect c.client)).visible (c.codec.unread ++ future) = o.shows
  rw [hadds.visible, hvisible, hrest, hclient]
  rfl

theorem Undisturbed.of_ground (hu : o.Undisturbed c future) {codec : Codec}
    (hread : c.codec.Reads codec) (hg : next.ground = Connection.ground { c with codec }) :
    o.Undisturbed next future := by
  have hcodec : next.codec = codec := congrArg Connection.Ground.codec hg
  obtain ⟨chunks, hq⟩ := hu.bytes
  refine ⟨(congrArg Connection.Ground.config hg).trans hu.config,
    (congrArg Connection.Ground.application hg).trans hu.application,
    (congrArg Connection.Ground.peer hg).trans hu.peer, ?_,
    (congrArg Connection.Ground.writeFailure hg).trans hu.writes,
    (congrArg Connection.Ground.flushFailure hg).trans hu.flushes,
    (congrArg Connection.Ground.stopping hg).trans hu.running, ?_, ?_⟩
  · rw [hcodec, hread.limits, hu.limits]
  · have hdrop := List.suffix_iff_eq_drop.mp hread.queue
    rw [hcodec, hdrop, hq, ← List.map_drop]
    exact ⟨_, rfl⟩
  · rw [hcodec, hread.ended]
    exact hu.ended

/-- A request that is accepted comes to be answered, unless its client is refused. -/
theorem Undisturbed.standing_handshake (hu : o.Undisturbed c future) (hvisible : c.visible = [])
    (hrest : c.codec.unread ++ future = o.rest) : o.Standing (c.handshake o.head) future := by
  have hjudge : (c.enter .handshaking).config.policy.judge o.head = .ok o.request := by
    rw [← o.judged, ← hu.config]
    rfl
  have hclient : Http.identify (c.enter .handshaking).peer o.request.headers = o.client := by
    rw [client, ← hu.peer]
    rfl
  have henter : (c.enter .handshaking).visible = [] := by
    rw [(Connection.adds_enter c .handshaking).visible, hvisible]
    rfl
  have hcases := (c.enter .handshaking).reidentify_cases o.request
  simp only [hclient] at hcases
  simp only [Connection.handshake, hjudge]
  rcases hcases with ⟨hsame, hre⟩ | ⟨-, hre⟩ | ⟨permit, passed, admission, -, -, hre⟩ |
    ⟨permit, kept, admission, decision, -, hne, -, hre⟩ <;> rw [hre]
  · exact .inl ((hu.enter .handshaking).agrees_accept hsame.symm henter hrest)
  · have hu' : o.Undisturbed { c.enter .handshaking with client := o.client } future :=
      hu.of_ground (.refl _) rfl
    exact .inl (hu'.agrees_accept rfl henter hrest)
  · let d := { c.enter .handshaking with
      client := o.client
      permit := some passed
      admission
      log := .transfer (c.enter .handshaking).client o.client .admitted ::
        (c.enter .handshaking).log }
    have hu' : o.Undisturbed d future := hu.of_ground (.refl _) rfl
    have hadds : (c.enter .handshaking).Adds d [] := ⟨[.transfer _ _ .admitted], rfl, rfl⟩
    refine .inl (hu'.agrees_accept rfl ?_ hrest)
    rw [hadds.visible, henter]
    rfl
  · refine .inr (setBack_reject_of_mem (e := .transfer _ _ decision) _ List.mem_cons_self ?_)
    exact bne_iff_ne.mpr hne

/-! ## Steps -/

theorem Undisturbed.not_stopping (hu : o.Undisturbed c future) : ¬ c.stopping = true := by
  rw [hu.running]
  exact Bool.false_ne_true

/-- An undisturbed read ends in a refusal, or when the stream is used up. -/
theorem Undisturbed.step_error {α : Type} (hu : o.Undisturbed c future) {scan : Bytes → Scan α}
    {codec : Codec} {e : Error} (h : c.codec.step scan = .done (.error e) codec) :
    (scan c.codec.buffer = .refused e ∧ codec = c.codec) ∨
      (scan c.codec.buffer = .wanting ∧ c.codec.unread ++ future = c.codec.buffer ∧
        e = .connectionClosed none ∧ codec = c.codec) := by
  rcases Codec.step_error h with ⟨hr, hc⟩ | ⟨-, failure, queue, hq, -⟩ | ⟨hw, hq, he, herror, hc⟩
  · exact .inl ⟨hr, hc⟩
  · obtain ⟨chunks, hchunks⟩ := hu.bytes
    rw [hchunks] at hq
    cases chunks <;> cases hq
  · refine .inr ⟨hw, ?_, herror, hc⟩
    rw [Codec.unread, Inbox.bytes, hq, hu.ended he, List.flatMap_nil, List.append_nil,
      List.append_nil]

/-- The head is what a scan of the whole stream finds. -/
theorem scanHead_stream (o : Opening) :
    scanHead o.config.limits (o.head ++ o.rest) = .found o.head o.rest := by
  have hsize := Http.headSize?_eq_some_iff.mpr o.whole
  have hle : o.head.length ≤ o.config.limits.maxRequestSize := by
    refine Nat.le_of_not_lt fun hlt => ?_
    have hjudge := o.judged
    have htake : o.config.policy.takeHead o.head =
        .error (.requestTooLarge o.head.length o.config.limits.maxRequestSize) := by
      simp only [Upgrade.Policy.takeHead, hsize]
      exact if_pos hlt
    rw [Upgrade.Policy.judge, htake] at hjudge
    cases hjudge
  refine scanHead_eq_found_iff.mpr ⟨o.head.length, Http.headSize?_append hsize o.rest, hle, ?_, ?_⟩
  · exact List.take_left.symm
  · exact List.drop_left.symm

theorem Undisturbed.standing_headStep (hu : o.Undisturbed c future) (hvisible : c.visible = [])
    (hstream : c.codec.unread ++ future = o.head ++ o.rest) {deadline : Option Nat}
    (hp : c.phase = .awaitingHead deadline) (h : Connection.HeadStep c deadline next) :
    o.Standing next future := by
  have hscan := o.scanHead_stream
  rw [← hstream, ← hu.limits, Codec.unread, List.append_assoc] at hscan
  have hpersistent := persistent_scanHead c.codec.limits
  cases h with
  | stop stopping => exact absurd stopping hu.not_stopping
  | @found head codec _ read =>
    have hu' : o.Undisturbed { c with codec } future :=
      hu.of_ground (Codec.reads_of_step_done read) rfl
    obtain ⟨rest, hfound, rfl⟩ := Codec.step_ok read
    rw [hpersistent.found hfound] at hscan
    obtain ⟨hhead, hrest⟩ := Scan.found.inj hscan
    rw [hhead]
    exact hu'.standing_handshake hvisible ((List.append_assoc ..).trans hrest)
  | failed _ read =>
    rcases hu.step_error read with ⟨hr, -⟩ | ⟨hw, hall, -⟩
    · obtain ⟨other, ho, -⟩ := hpersistent.refused hr (c.codec.inbox.bytes ++ future)
      rw [ho] at hscan
      cases hscan
    · rw [← List.append_assoc, ← Codec.unread, hall, hw] at hscan
      cases hscan
  | more _ read =>
    refine .inl ?_
    rw [Agrees, hp]
    exact ⟨hvisible, by rw [← hstream, Codec.unread_of_step_more read]⟩
  | late => exact .inr (setBack_reject c _)

theorem run_of_fault {e : Error} (he : e.IsFault) (application : Application) (client : String)
    (calls : List Call) :
    Interpreter.run application client calls [] e = Interpreter.refuse client e := by
  obtain ⟨code, hcode⟩ := he
  cases e with
  | connectionClosed reason => cases hcode
  | _ => rfl

theorem Answering.standing_frameStep (h : o.Answering c) (hu : o.Undisturbed c future)
    (hv : c.visible ++ o.continues c.visible (c.codec.unread ++ future) = o.shows)
    {deadline : Option Nat}
    (hp : c.phase = .awaitingFrame deadline) (hs : Connection.FrameStep c deadline next) :
    o.Standing next future := by
  have hunread : c.codec.unread ++ future = c.codec.buffer ++ (c.codec.inbox.bytes ++ future) :=
    List.append_assoc ..
  cases hs with
  | stop stopping => exact absurd stopping hu.not_stopping
  | @found frame codec _ read =>
    have hu' : o.Undisturbed { c with codec } future :=
      hu.of_ground (Codec.reads_of_step_done read) rfl
    have h' : o.Answering { c with codec } := { h with }
    obtain ⟨rest, hfound, rfl⟩ := Codec.step_ok read
    have hstream := Frame.ofStream_of_found
      (scanFrame_append_of_found hfound (c.codec.inbox.bytes ++ future))
    rw [← hunread, hu.limits] at hstream
    rw [continues, Interpreter.interpret, hstream] at hv
    refine .inl (h'.agrees_dispatch hu' ?_ hv)
    rw [Codec.unread, List.append_assoc]
  | timedOut _ read timeout =>
    rcases hu.step_error read with ⟨hr, -⟩ | ⟨-, -, rfl, -⟩
    · rw [(isFault_of_scanFrame hr).kind_ne.2] at timeout
      cases timeout
    · cases timeout
  | failed _ read =>
    rcases hu.step_error read with ⟨hr, rfl⟩ | ⟨hw, hall, rfl, rfl⟩
    · -- the header is refused, on which the whole stream ends
      have hfault := isFault_of_scanFrame hr
      have hstream := Frame.ofStream_of_refused
        (scanFrame_append_of_refused hr (c.codec.inbox.bytes ++ future))
      rw [← hunread, hu.limits] at hstream
      rw [continues, Interpreter.interpret, hstream, run_of_fault hfault] at hv
      exact .inl (h.agrees_fail hu hfault hv)
    · -- the stream is used up
      have hstream := Frame.ofStream_of_wanting hw
      rw [← hall, hu.limits] at hstream
      rw [continues, Interpreter.interpret, hstream] at hv
      exact .inl (agrees_finish h.client h.connected hv)
  | more _ read =>
    refine .inl ?_
    rw [Agrees, hp]
    refine ⟨{ h with }, ?_⟩
    rw [← hv]
    simp only [Codec.unread_of_step_more read]
    rfl
  | late => exact .inr (h.setBack_expire hu _)

theorem agrees_drained (hclient : c.client = o.client) (hconnected : c.connected = true)
    {verdict : Option Error} (hv : c.visible ++ reported o.client verdict = o.shows) :
    o.Agrees (c.drained verdict) future := by
  have hadds := Connection.adds_enter c .closed
  refine agrees_finish (c := c.enter .closed) hclient hconnected ?_
  rw [hadds.visible, List.append_nil]
  exact hv

theorem standing_drainStep {deadline : Nat} {verdict : Option Error}
    (hp : c.phase = .draining deadline verdict) (h : o.Standing c future)
    (hs : Connection.DrainStep c deadline verdict next) : o.Standing next future := by
  simp only [Standing, Agrees, SetBack, hp] at h
  have hstay : ∀ codec : Codec, o.Standing { c with codec } future := by
    intro codec
    simp only [Standing, Agrees, SetBack, hp]
    exact h
  have hend : ∀ codec : Codec, o.Standing (Connection.drained { c with codec } verdict) future := by
    intro codec
    rcases h with ⟨hclient, hconnected, hv⟩ | hset
    · exact .inl (agrees_drained (c := { c with codec }) hclient hconnected hv)
    · exact .inr (setBack_drained hset)
  cases hs with
  | closed => exact hend _
  | passed => exact hstay _
  | failed => exact hend _
  | more => exact hstay _
  | late => exact hend c.codec

/-- A step of a connection keeps it undisturbed, and keeps to the interpreter. -/
theorem Undisturbed.step (hu : o.Undisturbed c future) (h : o.Standing c future)
    (hs : c.step? = some next) : o.Undisturbed next future ∧ o.Standing next future := by
  obtain ⟨codec, hread, hg⟩ := Connection.exists_ground_of_step? hs
  refine ⟨hu.of_ground hread hg, ?_⟩
  cases hp : c.phase with
  | accepted =>
    simp only [Standing, Agrees, SetBack, hp, or_false] at h
    simp only [Connection.step?, hp] at hs
    cases hs
    exact .inl h
  | awaitingHead deadline =>
    simp only [Standing, Agrees, SetBack, hp, or_false] at h
    simp only [Connection.step?, hp] at hs
    exact hu.standing_headStep h.1 h.2 hp (Connection.headStep hs)
  | awaitingFrame deadline =>
    simp only [Standing, Agrees, SetBack, hp, or_false] at h
    simp only [Connection.step?, hp] at hs
    exact h.1.standing_frameStep hu h.2 hp (Connection.frameStep hs)
  | draining deadline verdict =>
    simp only [Connection.step?, hp] at hs
    exact standing_drainStep hp h (Connection.drainStep hs)
  | finished =>
    simp only [Connection.step?, hp] at hs
    cases hs

/-! ## Runs -/

/-- What happens outside leaves a standing, if the stream is still the same. -/
theorem Standing.of_sameInside {d : Connection} {later : Bytes} (h : o.Standing c future)
    (hin : d.SameInside c) (hstream : d.codec.unread ++ later = c.codec.unread ++ future) :
    o.Standing d later := by
  have hvisible : d.visible = c.visible := by
    rw [Connection.visible, Connection.effects, hin.log]
    rfl
  rcases h with h | h
  · refine .inl ?_
    unfold Agrees at h ⊢
    rw [hin.phase, hvisible, hstream]
    cases hp : c.phase with
    | accepted => simpa only [hp] using h
    | awaitingHead deadline => simpa only [hp] using h
    | awaitingFrame deadline =>
      simp only [hp] at h
      exact ⟨⟨hin.client.trans h.1.client, hin.connected.trans h.1.connected,
        hin.state.trans h.1.state⟩, h.2⟩
    | draining deadline verdict =>
      simp only [hp] at h
      exact ⟨hin.client.trans h.1, hin.connected.trans h.2.1, h.2.2⟩
    | finished => simpa only [hp] using h
  · refine .inr ?_
    unfold SetBack at h ⊢
    rw [hin.phase, hin.log]
    exact h

/-- A calm move brings its chunks, and disturbs nothing. -/
theorem Undisturbed.move {m : Connection.Move} (hcalm : m.isCalm = true)
    (hu : o.Undisturbed c (m.chunks.flatten ++ future))
    (h : o.Standing c (m.chunks.flatten ++ future)) :
    o.Undisturbed (c.move m) future ∧ o.Standing (c.move m) future := by
  cases m with
  | step =>
    show o.Undisturbed (c.step?.getD c) future ∧ o.Standing (c.step?.getD c) future
    cases hs : c.step? with
    | none => exact ⟨hu, h⟩
    | some next => exact hu.step h hs
  | event e =>
    have hin := Connection.sameInside_apply c e
    cases e with
    | deliver chunks =>
      obtain ⟨queued, hq⟩ := hu.bytes
      have hbytes : (c.codec.inbox.deliver chunks).queue =
          List.map Arrival.bytes (queued ++ chunks.filter (!·.isEmpty)) := by
        rw [List.map_append, ← hq]
        rfl
      have hended : c.codec.inbox.ended = true → future = [] :=
        fun he => (List.append_eq_nil_iff.mp (hu.ended he)).2
      refine ⟨{ hu with bytes := ⟨_, hbytes⟩, ended := hended }, h.of_sameInside hin ?_⟩
      show c.codec.buffer ++ (c.codec.inbox.deliver chunks).bytes ++ future = _
      rw [Inbox.bytes_deliver, Codec.unread, List.append_assoc, List.append_assoc,
        List.append_assoc]
      rfl
    | advance ms => exact ⟨{ hu with }, h.of_sameInside hin rfl⟩
    | nothing => exact ⟨hu, h⟩
    | _ => cases hcalm
  | elsewhere admission time =>
    have hin : (c.move (.elsewhere admission time)).SameInside c :=
      ⟨rfl, rfl, rfl, rfl, rfl, rfl, rfl, rfl, rfl, rfl⟩
    exact ⟨{ hu with }, h.of_sameInside hin rfl⟩
  | _ => cases hcalm

/-- The peer closes when all of the stream has arrived. -/
theorem Undisturbed.endOfInput (hu : o.Undisturbed c []) (h : o.Standing c []) :
    o.Undisturbed (c.apply .endOfInput) [] ∧ o.Standing (c.apply .endOfInput) [] :=
  ⟨{ hu with ended := fun _ => rfl }, h.of_sameInside (Connection.sameInside_apply c _) rfl⟩

theorem Undisturbed.after {moves : List Connection.Move} (hcalm : ∀ m ∈ moves, m.isCalm = true)
    (hu : o.Undisturbed c (Connection.delivered moves ++ future))
    (h : o.Standing c (Connection.delivered moves ++ future)) :
    o.Undisturbed (c.after moves) future ∧ o.Standing (c.after moves) future := by
  induction moves generalizing c with
  | nil => exact ⟨hu, h⟩
  | cons m moves ih =>
    have hcons : Connection.delivered (m :: moves) ++ future =
        m.chunks.flatten ++ (Connection.delivered moves ++ future) := by
      rw [Connection.delivered, List.flatMap_cons, List.flatten_append, List.append_assoc]
      rfl
    rw [hcons] at hu h
    obtain ⟨hu', h'⟩ := hu.move (hcalm m List.mem_cons_self) h
    exact ih (fun m' hm => hcalm m' (List.mem_cons_of_mem m hm)) hu' h'

/-- A connection that is over and has not been set back has done what the interpreter says. -/
theorem Standing.visible_of_isFinished (h : o.Standing c future) (hfinished : c.isFinished = true)
    (hset : ∀ e ∈ c.effects, e.isSetback = false) :
    c.visible = o.shows ++ [.call (.disconnect o.client)] := by
  have hp : c.phase = .finished := eq_of_beq hfinished
  simp only [Standing, Agrees, SetBack, hp] at h
  rcases h with h | ⟨e, he, hback⟩
  · exact h
  · rw [hset e (List.mem_reverse.mpr he)] at hback
    cases hback

/-- A connection refines the interpreter.  Let a stream open with a request that is accepted, and
arrive in whatever chunks and at whatever times before the peer closes, while nothing fails and the
server goes on.  Then the connection comes to its end, and when it is over, and no transfer was
refused and no wait took too long, it has written what the interpreter says and told the application
what the interpreter says, in the same order, and has taken leave. -/
theorem refines (o : Opening) (admission : Admission.Controller)
    (permit : Option Admission.Controller.Permit) (now admissionTime : Nat)
    (before after : List Connection.Move) (hbefore : ∀ m ∈ before, m.isCalm = true)
    (hafter : ∀ m ∈ after, m.isCalm = true)
    (hstream : Connection.delivered before = o.head ++ o.rest) (hend : Connection.delivered after = []) :
    let start := Connection.new o.config o.application o.peer admission permit now admissionTime
    let c := start.after (before ++ .event .endOfInput :: after)
    (∃ steps, (c.after (List.replicate steps .step)).isFinished = true) ∧
      (c.isFinished = true → (∀ e ∈ c.effects, e.isSetback = false) →
        c.visible = o.shows ++ [.call (.disconnect o.client)] ∧
          Connection.bytesOf c.effects = Bytes.ofText o.request.acceptResponse ++
            Connection.bytesOf (o.interpret o.rest) ∧
          Connection.callsOf c.effects = .connect o.client ::
            Connection.callsOf (o.interpret o.rest) ++ [.disconnect o.client]) := by
  intro start c
  have hsplit : c = ((start.after before).apply .endOfInput).after after :=
    List.foldl_append
  have hu : o.Undisturbed start (o.head ++ o.rest) :=
    ⟨rfl, rfl, rfl, rfl, rfl, rfl, rfl, ⟨[], rfl⟩, nofun⟩
  have hs : o.Standing start (o.head ++ o.rest) := .inl ⟨rfl, rfl⟩
  rw [← hstream, ← List.append_nil (Connection.delivered before)] at hu hs
  obtain ⟨hu₁, hs₁⟩ := hu.after hbefore hs
  obtain ⟨hu₂, hs₂⟩ := hu₁.endOfInput hs₁
  rw [← List.append_nil [], ← hend] at hu₂ hs₂
  obtain ⟨-, hs₃⟩ := hu₂.after hafter hs₂
  rw [← hsplit] at hs₃
  refine ⟨?_, fun hfinished hset => ?_⟩
  · rw [hsplit]
    exact Connection.exists_isFinished (Connection.ended_after rfl after)
  · have hvisible := hs₃.visible_of_isFinished hfinished hset
    refine ⟨hvisible, ?_, ?_⟩
    · rw [← Connection.bytesOf_visible, hvisible, Connection.bytesOf, List.flatMap_append]
      exact List.append_nil _
    · rw [← Connection.callsOf_visible, hvisible, Connection.callsOf, List.filterMap_append]
      rfl

/-- A client that asks to be let in, and then sends a ping and a close frame. -/
def greeting : Opening where
  config := .default
  application := .silent
  peer := .v4 ⟨127, 0, 0, 1⟩
  head := Bytes.ofText ("GET / HTTP/1.1\r\nHost: a\r\nUpgrade: websocket\r\n" ++
    "Connection: Upgrade\r\nSec-WebSocket-Key: AAAAAAAAAAAAAAAAAAAAAA==\r\n" ++
    "Sec-WebSocket-Version: 13\r\n\r\n")
  rest := [0x89, 0x80, 0, 0, 0, 0, 0x88, 0x80, 0, 0, 0, 0]
  request :=
    { method := "GET"
      target := "/"
      version := "HTTP/1.1"
      headers := ⟨[("Host", "a"), ("Upgrade", "websocket"), ("Connection", "Upgrade"),
        ("Sec-WebSocket-Key", "AAAAAAAAAAAAAAAAAAAAAA=="), ("Sec-WebSocket-Version", "13")]⟩
      key := "AAAAAAAAAAAAAAAAAAAAAA==" }
  whole := Http.headSize?_eq_some_iff.mp (by decide +kernel)
  judged := by
    have hok : ∀ {r : Except Error Upgrade.Request} {request : Upgrade.Request},
        r.toOption = some request → r = .ok request := by
      intro r request h
      cases r <;> cases h
      rfl
    exact hok (by decide +kernel)

/-- The stream is cut inside the head and inside the first frame. -/
theorem refines_greeting :
    let start := Connection.new greeting.config greeting.application greeting.peer
      (.ofConfig .default) none 0 0
    let before : List Connection.Move :=
      [.step, .event (.deliver [greeting.head.take 70]), .step,
        .event (.deliver [greeting.head.drop 70 ++ greeting.rest.take 3]), .step, .step,
        .event (.deliver [greeting.rest.drop 3])]
    let after : List Connection.Move := [.step, .step, .step]
    let c := start.after (before ++ .event .endOfInput :: after)
    c.isFinished = true ∧ c.visible = greeting.shows ++ [.call (.disconnect greeting.client)] := by
  intro start before after c
  have hbefore : ∀ m ∈ before, m.isCalm = true := by decide
  have hafter : ∀ m ∈ after, m.isCalm = true := by decide
  have hstream : Connection.delivered before = greeting.head ++ greeting.rest := by decide +kernel
  have hrun : c.isFinished = true ∧ ∀ e ∈ c.effects, e.isSetback = false := by decide +kernel
  obtain ⟨-, hrefines⟩ := refines greeting (.ofConfig .default) none 0 0 before after hbefore
    hafter hstream rfl
  exact ⟨hrun.1, (hrefines hrun.1 hrun.2).1⟩

end Opening
end WebSocket
