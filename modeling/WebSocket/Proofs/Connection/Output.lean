import WebSocket.Proofs.Connection.Course
import WebSocket.Proofs.Connection.Refinement

/-
Everything that a connection writes is well-formed.  Each stage of the course says what has been
written by then (`Stage.Output`): nothing up to the verdict on the request, then a refusal, or an
acceptance, sound frames that are no close frames, and one close frame at most.  From the close
frame on a connection is quiet.
-/
namespace WebSocket

namespace Effect

/-- An effect that neither writes nor tells the application of a message. -/
def IsQuiet : Effect → Prop
  | .write _ => False
  | .call (.message _ _) => False
  | .call (.binary _ _) => False
  | _ => True

end Effect

namespace Connection

/-! ## Writes -/

theorem bytesOf_eq_flatten (effects : List Effect) :
    bytesOf effects = (writesOf effects).flatten := by
  induction effects with
  | nil => rfl
  | cons e effects ih =>
    show _ ++ bytesOf effects = _
    rw [ih]
    cases e <;> rfl

theorem writesOf_append_write (effects : List Effect) (data : Bytes) :
    writesOf (effects ++ [.write data]) = writesOf effects ++ [data] :=
  List.filterMap_append

theorem writesOf_append_quiet (effects : List Effect) {e : Effect} (he : writesOf [e] = []) :
    writesOf (effects ++ [e]) = writesOf effects := by
  rw [writesOf, List.filterMap_append, ← writesOf, ← writesOf, he, List.append_nil]

theorem mem_writesOf {effects before after : List Effect} {data : Bytes}
    (h : effects = before ++ .write data :: after) : data ∈ writesOf effects := by
  rw [h, writesOf, List.mem_filterMap]
  exact ⟨.write data, List.mem_append_right _ List.mem_cons_self, rfl⟩

/-- An effect that has been done is the last one, or one before that. -/
theorem append_eq_append_cons {effects before after : List Effect} {e x : Effect}
    (h : effects ++ [e] = before ++ x :: after) :
    after = [] ∨ ∃ middle, after = middle ++ [e] ∧ effects = before ++ x :: middle := by
  rcases List.eq_nil_or_concat after with rfl | ⟨middle, last, rfl⟩
  · exact .inl rfl
  · rw [List.concat_eq_append, ← List.cons_append, ← List.append_assoc] at h
    obtain ⟨hearlier, hlast⟩ := List.append_inj' h rfl
    rw [List.singleton_inj.mp hlast, List.concat_eq_append]
    exact .inr ⟨middle, rfl, hearlier⟩

/-- What is written after the upgrade: an acceptance and sound frames. -/
structure Spoken (policy : Upgrade.Policy) (effects : List Effect) (frames : List Frame) :
    Prop where
  writes : ∃ head request, policy.judge head = .ok request ∧
    writesOf effects = Bytes.ofText request.acceptResponse :: frames.map Frame.encode
  sound : ∀ f ∈ frames, f.Sound

/-- What is written is nothing, or a refusal, or an acceptance with the frames that follow it.  At
most one of these is a close frame, and after it the connection is quiet. -/
def WellFormed (policy : Upgrade.Policy) (effects : List Effect) : Prop :=
  writesOf effects = [] ∨
    (∃ status : Http.Status, 400 ≤ status.code ∧ writesOf effects = [status.refusalBytes]) ∨
      ∃ frames, Spoken policy effects frames ∧ frames.countP (·.opcode = .close) ≤ 1 ∧
        ∀ f ∈ frames, f.opcode = .close → ∀ before after,
          effects = before ++ .write f.encode :: after → ∀ e ∈ after, e.IsQuiet

variable {policy : Upgrade.Policy} {effects : List Effect} {frames : List Frame} {e : Effect}

theorem Spoken.quiet (h : Spoken policy effects frames) (he : writesOf [e] = []) :
    Spoken policy (effects ++ [e]) frames :=
  ⟨by rw [writesOf_append_quiet effects he]; exact h.writes, h.sound⟩

theorem Spoken.write (h : Spoken policy effects frames) {f : Frame} (hf : f.Sound) :
    Spoken policy (effects ++ [.write f.encode]) (frames ++ [f]) := by
  obtain ⟨head, request, hjudge, hwrites⟩ := h.writes
  refine ⟨⟨head, request, hjudge, ?_⟩, fun g hg => ?_⟩
  · rw [writesOf_append_write, hwrites, List.map_append]
    rfl
  · rcases List.mem_append.mp hg with hg | hg
    · exact h.sound g hg
    · rw [List.mem_singleton.mp hg]
      exact hf

theorem exists_acceptResponse_eq (request : Upgrade.Request) :
    ∃ rest, Bytes.ofText request.acceptResponse =
      Bytes.ofText "HTTP/1.1 101 Switching Protocols\r\n" ++ rest := by
  unfold Upgrade.Request.acceptResponse
  rw [Bytes.ofText_append, Bytes.ofText_append, Bytes.ofText_append, Bytes.ofText_append,
    Bytes.ofText_append]
  rw [List.append_assoc, List.append_assoc, List.append_assoc, List.append_assoc]
  exact ⟨_, rfl⟩

theorem head?_acceptResponse (request : Upgrade.Request) :
    (Bytes.ofText request.acceptResponse).head? = some 0x48 := by
  have hstart : (Bytes.ofText "HTTP/1.1 101 Switching Protocols\r\n").head? = some 0x48 := rfl
  obtain ⟨rest, hrest⟩ := exists_acceptResponse_eq request
  rw [hrest, List.head?_append, hstart, Option.some_or]

/-- The acceptance is no frame that may be sent: its first letter would set a reserved bit. -/
theorem encode_ne_acceptResponse_of_rsv1 {f : Frame} (h : f.rsv1 = false)
    (request : Upgrade.Request) : f.encode ≠ Bytes.ofText request.acceptResponse := by
  intro heq
  have hletter := head?_acceptResponse request
  have hfirst : f.firstByte = 0x48 := by
    rw [← heq] at hletter
    exact Option.some.inj hletter
  obtain ⟨-, -, hrsv1, -⟩ := f.firstByte_bits
  rw [hfirst, h] at hrsv1
  cases hrsv1

theorem encode_ne_acceptResponse {f : Frame} (hf : f.Sound) (request : Upgrade.Request) :
    f.encode ≠ Bytes.ofText request.acceptResponse := by
  obtain ⟨m, hm⟩ := hf.meaningful
  have hreserved := (Frame.validate_eq_ok_iff.mp (Message.ofFrame_eq_ok_iff.mp hm).1).1
  have hrsv1 : f.rsv1 = false := by
    cases h : f.rsv1 with
    | false => rfl
    | true =>
      rw [Frame.hasReserved, h] at hreserved
      cases hreserved
  exact encode_ne_acceptResponse_of_rsv1 hrsv1 request

/-- Sound frames with the same bytes are the same. -/
theorem eq_of_encode_eq {f g : Frame} (hf : f.Sound) (hg : g.Sound) (h : f.encode = g.encode) :
    f = g := by
  have hd := hf.decode_encode
  rw [h, hg.decode_encode] at hd
  cases hd
  rfl

/-- After the last write, which is that of a sound close frame, a connection has been quiet. -/
theorem Spoken.close (h : Spoken policy effects frames) (hopen : ∀ f ∈ frames, f.opcode ≠ .close)
    {f : Frame} (hf : f.Sound) : WellFormed policy (effects ++ [.write f.encode]) := by
  refine .inr (.inr ⟨frames ++ [f], h.write hf, ?_, ?_⟩)
  · have hnone : frames.countP (·.opcode = .close) = 0 := by
      rw [List.countP_eq_zero]
      intro g hg
      simpa using hopen g hg
    rw [List.countP_append, hnone, Nat.zero_add]
    exact List.countP_le_length
  · intro g hg hclose before after heq
    have hgf : g = f := by
      rcases List.mem_append.mp hg with hg | hg
      · exact absurd hclose (hopen g hg)
      · exact List.mem_singleton.mp hg
    subst hgf
    rcases append_eq_append_cons heq with rfl | ⟨middle, -, hearlier⟩
    · exact fun e he => nomatch he
    · -- the write would have to stand among the earlier ones, which it differs from
      obtain ⟨head, request, -, hwrites⟩ := h.writes
      have hmem := mem_writesOf hearlier
      rw [hwrites] at hmem
      rcases List.mem_cons.mp hmem with hresponse | hframe
      · exact absurd hresponse (encode_ne_acceptResponse hf request)
      · obtain ⟨other, hother, hencode⟩ := List.mem_map.mp hframe
        rw [eq_of_encode_eq (h.sound other hother) hf hencode] at hother
        exact absurd hclose (hopen g hother)

theorem Spoken.wellFormed (h : Spoken policy effects frames)
    (hopen : ∀ f ∈ frames, f.opcode ≠ .close) : WellFormed policy effects := by
  refine .inr (.inr ⟨frames, h, ?_, fun f hf hclose => absurd hclose (hopen f hf)⟩)
  rw [List.countP_eq_zero.mpr fun f hf => by simpa using hopen f hf]
  exact Nat.zero_le 1

/-- What is well-formed stays so when nothing is written and no message told of. -/
theorem WellFormed.quiet (h : WellFormed policy effects) (he : e.IsQuiet) :
    WellFormed policy (effects ++ [e]) := by
  have hno : writesOf [e] = [] := by
    cases e with
    | write data => exact absurd he id
    | _ => rfl
  have hwrites := writesOf_append_quiet effects hno
  rcases h with h | ⟨status, hcode, h⟩ | ⟨frames, h, hcount, hquiet⟩
  · exact .inl (hwrites.trans h)
  · exact .inr (.inl ⟨status, hcode, hwrites.trans h⟩)
  · refine .inr (.inr ⟨frames, h.quiet hno, hcount, fun f hf hclose before after heq => ?_⟩)
    rcases append_eq_append_cons heq with rfl | ⟨middle, rfl, hearlier⟩
    · exact fun e he => nomatch he
    · intro x hx
      rcases List.mem_append.mp hx with hx | hx
      · exact hquiet f hf hclose before middle hearlier x hx
      · rw [List.mem_singleton.mp hx]
        exact he

end Connection

/-! ## Stages -/

namespace Stage

open Connection

/-- What has been written by a stage. -/
def Output (policy : Upgrade.Policy) (effects : List Effect) : Stage → Prop
  | .silent => writesOf effects = []
  | .judging => writesOf effects = []
  | .accepted _ => ∃ frames, Spoken policy effects frames ∧ ∀ f ∈ frames, f.opcode ≠ .close
  | .opened _ => ∃ frames, Spoken policy effects frames ∧ ∀ f ∈ frames, f.opcode ≠ .close
  | .serving _ => ∃ frames, Spoken policy effects frames ∧ ∀ f ∈ frames, f.opcode ≠ .close
  | .closing _ => ∃ frames, Spoken policy effects frames ∧ ∀ f ∈ frames, f.opcode ≠ .close
  | _ => WellFormed policy effects

theorem Output.wellFormed {policy : Upgrade.Policy} {effects : List Effect} {s : Stage}
    (h : s.Output policy effects) : WellFormed policy effects := by
  match s with
  | .silent => exact .inl h
  | .judging => exact .inl h
  | .accepted _ =>
    obtain ⟨frames, hs, hopen⟩ := h
    exact hs.wellFormed hopen
  | .opened _ =>
    obtain ⟨frames, hs, hopen⟩ := h
    exact hs.wellFormed hopen
  | .serving _ =>
    obtain ⟨frames, hs, hopen⟩ := h
    exact hs.wellFormed hopen
  | .closing _ =>
    obtain ⟨frames, hs, hopen⟩ := h
    exact hs.wellFormed hopen
  | .refused => exact h
  | .parted _ => exact h
  | .left _ => exact h
  | .reported _ => exact h
  | .shut _ => exact h
  | .released _ => exact h
  | .gone _ => exact h

/-- The answers of an application whose replies fit are sound, and no close frames. -/
theorem Answers.sound {application : Application} (hfits : application.Fits) {f : Frame}
    (h : Answers application f) : f.Sound ∧ f.opcode ≠ .close := by
  cases h with
  | text hreply =>
    refine ⟨Frame.sound_toFrame (m := .text _) trivial ?_, fun h => nomatch h⟩
    show (Bytes.ofText _).length < 0x8000000000000000
    rw [Bytes.length_ofText]
    exact (hfits _).text _ _ _ hreply
  | binary hreply =>
    exact ⟨Frame.sound_toFrame (m := .binary _) trivial ((hfits _).binary _ _ _ hreply),
      fun h => nomatch h⟩
  | pong hlength =>
    refine ⟨Frame.sound_toFrame (m := .pong _) hlength ?_, fun h => nomatch h⟩
    exact Nat.lt_of_le_of_lt hlength (by decide)

variable {config : Config} {application : Application} {peer : Address} {s t : Stage} {e : Effect}
  {effects : List Effect}

/-- What a connection does at a stage leads to what has been written by the next. -/
theorem Output.does (hfits : application.Fits) (h : s.Output config.policy effects)
    (hd : s.Does config application peer e t) : t.Output config.policy (effects ++ [e]) := by
  cases hd with
  | judge | transfer => exact (writesOf_append_quiet _ rfl).trans h
  | refuse hs hcode =>
    have hnone : writesOf effects = [] := by
      rcases hs with rfl | rfl <;> exact h
    refine .inr (.inl ⟨_, hcode, ?_⟩)
    rw [writesOf_append_write, hnone]
    rfl
  | accept hjudge =>
    refine ⟨[], ⟨⟨_, _, hjudge, ?_⟩, fun f hf => nomatch hf⟩, fun f hf => nomatch hf⟩
    rw [writesOf_append_write, show writesOf effects = [] from h]
    rfl
  | «open» | connect | message | binary | part =>
    obtain ⟨frames, hs, hopen⟩ := h
    exact ⟨frames, hs.quiet rfl, hopen⟩
  | answer hanswers =>
    obtain ⟨frames, hs, hopen⟩ := h
    obtain ⟨hsound, hne⟩ := hanswers.sound hfits
    refine ⟨_, hs.write hsound, fun g hg => ?_⟩
    rcases List.mem_append.mp hg with hg | hg
    · exact hopen g hg
    · rw [List.mem_singleton.mp hg]
      exact hne
  | close hclose =>
    obtain ⟨frames, hs, hopen⟩ := h
    exact hs.close hopen (Frame.sound_close hclose)
  | writeFailed | flushFailed | leave | report | leaveReported | shut | release | disconnect =>
    exact h.wellFormed.quiet trivial

/-- What has been written along a course is what the stage says. -/
theorem Course.output {log : List Effect} (hfits : application.Fits)
    (h : Course config application peer log s) : s.Output config.policy log.reverse := by
  induction h with
  | start => rfl
  | next _ hd ih =>
    rw [List.reverse_cons]
    exact ih.does hfits hd

end Stage

namespace Connection

/-- Whatever the peer sends and whenever, whatever the application replies, and whatever fails: what
a connection writes is nothing, or one refusal, or an acceptance followed by the bytes of sound
frames, of which at most one is a close frame.  After that the connection is quiet. -/
theorem output_wellFormed {application : Application} (hfits : application.Fits) (config : Config)
    (peer : Address) (admission : Admission.Controller)
    (permit : Option Admission.Controller.Permit) (now admissionTime : Nat) (moves : List Move) :
    let effects :=
      ((new config application peer admission permit now admissionTime).after moves).effects
    bytesOf effects = (writesOf effects).flatten ∧ WellFormed config.policy effects := by
  intro effects
  let start := new config application peer admission permit now admissionTime
  obtain ⟨s, hf, -⟩ := OnCourse.after (c := start) (onCourse_new ..) moves
  obtain ⟨hconfig, happlication, -⟩ := origin_after start moves
  have hout := Stage.Course.output (by rw [happlication]; exact hfits) hf
  rw [hconfig] at hout
  exact ⟨bytesOf_eq_flatten effects, hout.wellFormed⟩

/-- An application that answers its first text otherwise than the next, and a peer that sends two
texts and a close frame. -/
theorem output_wellFormed_of_replies :
    let g := Opening.greeting
    let replies (calls : List Call) : String := if calls.length ≤ 2 then "once" else "again"
    let application : Application :=
      ⟨fun calls => { Handler.silent with onMessage := fun _ _ => some (replies calls) }⟩
    let text : Bytes := [0x81, 0x82, 0, 0, 0, 0, 0x68, 0x69]
    let close : Bytes := [0x88, 0x80, 0, 0, 0, 0]
    let start := new g.config application g.peer (.ofConfig .default) none 0 0
    let effects := (start.after [.step, .event (.deliver [g.head]), .step, .step,
      .event (.deliver [text ++ text ++ close]), .step, .step, .step, .step]).effects
    application.Fits ∧
      writesOf effects = [Bytes.ofText g.request.acceptResponse, (Frame.text "once").encode,
        (Frame.text "again").encode, (Frame.new .close []).encode] ∧
      bytesOf effects = (writesOf effects).flatten ∧ WellFormed g.config.policy effects := by
  intro g replies application text close start effects
  have hfits : application.Fits := by
    refine fun calls => ⟨fun _ _ reply h => ?_, fun _ _ _ h => nomatch h⟩
    have hreply : reply = replies calls := (Option.some.inj h).symm
    rw [hreply]
    show (if calls.length ≤ 2 then "once" else "again").utf8ByteSize < _
    split <;> decide
  exact ⟨hfits, by decide +kernel, output_wellFormed hfits g.config g.peer ..⟩

end Connection
end WebSocket
