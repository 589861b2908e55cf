import WebSocket.Connection.Run
import WebSocket.Proofs.Connection.Shown
import WebSocket.Proofs.Frame.Faults
import WebSocket.Proofs.Message.RoundTrip

/-
A connection does what the interpreter says.  While nothing disturbs it, what a connection has done
so far, together with what the interpreter makes of the bytes that are still to come, is what it
makes of the whole stream (`Opening.Agrees`).  Every step keeps this, wherever the stream is cut
into chunks and whenever they arrive: what a scan finds in the buffer it finds in the whole of the
stream.
-/
namespace WebSocket

/-- Whether an effect sets a connection back: a transfer that was refused, or a wait that took too
long. -/
def Effect.isSetback : Effect → Bool
  | .transfer _ _ decision => decision != .admitted
  | .call (.error _ (.timeout _)) => true
  | _ => false

/-- A stream that opens with a request that the server accepts. -/
structure Opening where
  config : Config
  application : Application
  peer : Address
  head : Bytes
  rest : Bytes
  request : Upgrade.Request
  whole : Http.HeadEndsAt head head.length
  judged : config.policy.judge head = .ok request

namespace Opening

open Connection (reported)

/-- The client that the request speaks for. -/
def client (o : Opening) : String :=
  Http.identify o.peer o.request.headers

/-- What the interpreter makes of bytes after the head, when some effects have been seen. -/
def continues (o : Opening) (seen : List Effect) (d : Bytes) : List Effect :=
  Interpreter.interpret o.config.limits o.application o.client (Connection.callsOf seen) d

/-- What the interpreter makes of the bytes after the head. -/
def interpret (o : Opening) (d : Bytes) : List Effect :=
  o.continues [.call (.connect o.client)] d

/-- What is to be seen of a connection, up to the farewell. -/
def shows (o : Opening) : List Effect :=
  Interpreter.serve o.config.limits o.application o.client o.request o.rest

/-- Nothing fails, the server goes on, and the peer closes after all of the stream. -/
structure Undisturbed (o : Opening) (c : Connection) (future : Bytes) : Prop where
  config : c.config = o.config
  application : c.application = o.application
  peer : c.peer = o.peer
  limits : c.codec.limits = o.config.limits
  writes : c.writeFailure = none
  flushes : c.flushFailure = none
  running : c.stopping = false
  bytes : ∃ chunks, c.codec.inbox.queue = List.map Arrival.bytes chunks
  ended : c.codec.inbox.ended = true → future = []

/-- A connection that answers messages. -/
structure Answering (o : Opening) (c : Connection) : Prop where
  client : c.client = o.client
  connected : c.connected = true
  state : c.state = .open

/-- What has been seen, and what is still to come, make up what the interpreter says. -/
def Agrees (o : Opening) (c : Connection) (future : Bytes) : Prop :=
  match c.phase with
  | .accepted => c.visible = [] ∧ c.codec.unread ++ future = o.head ++ o.rest
  | .awaitingHead _ => c.visible = [] ∧ c.codec.unread ++ future = o.head ++ o.rest
  | .awaitingFrame _ =>
    o.Answering c ∧ c.visible ++ o.continues c.visible (c.codec.unread ++ future) = o.shows
  | .draining _ verdict =>
    c.client = o.client ∧ c.connected = true ∧ c.visible ++ reported o.client verdict = o.shows
  | .finished => c.visible = o.shows ++ [.call (.disconnect o.client)]

/-- A connection has been set back, or will have been when it is over. -/
def SetBack (c : Connection) : Prop :=
  match c.phase with
  | .draining _ verdict => ∃ fault, verdict = some (.timeout fault)
  | .finished => ∃ e ∈ c.log, e.isSetback = true
  | _ => False

variable {o : Opening} {c next : Connection} {future : Bytes}

/-! ## Single operations -/

theorem Undisturbed.write (h : o.Undisturbed c future) (data : Bytes) :
    c.write data = (c.emit (.write data), none) := by
  rcases c.write_cases data with ⟨-, -, hw⟩ | ⟨failure, hf, -⟩ | ⟨failure, -, hf, -⟩
  · exact hw
  · rw [h.writes] at hf
    cases hf
  · rw [h.flushes] at hf
    cases hf

/-- The application answers a call as it does after the calls that have been seen and that one. -/
theorem handler_notify (c : Connection) (call : Call) : (c.notify call).handler =
    c.application.after (Connection.callsOf c.visible ++ [call]) := by
  have heffects : (c.notify call).effects = c.effects ++ [.call call] := List.reverse_cons
  rw [Connection.callsOf_visible, Connection.handler, heffects, Connection.callsOf_append]
  rfl

/-- A write changes nothing about what is to come. -/
theorem continues_write (o : Opening) (seen : List Effect) (data d : Bytes) :
    o.continues (seen ++ [.write data]) d = o.continues seen d := by
  have hnone : Connection.callsOf [.write data] = [] := rfl
  rw [continues, continues, Connection.callsOf_append, hnone, List.append_nil]

/-- After the last thing that is to be seen but the farewell, a connection ends as it should. -/
theorem agrees_finish (hclient : c.client = o.client) (hconnected : c.connected = true)
    {verdict : Option Error} (hv : c.visible ++ reported o.client verdict = o.shows) :
    o.Agrees (c.finish verdict) future := by
  show (c.finish verdict).visible = _
  rw [(Connection.adds_finish c verdict).visible, hclient, hconnected, if_pos rfl,
    ← List.append_assoc, hv]

theorem Answering.agrees_awaitFrame (h : o.Answering c)
    (hv : c.visible ++ o.continues c.visible (c.codec.unread ++ future) = o.shows) :
    o.Agrees c.awaitFrame future :=
  ⟨⟨h.client, h.connected, h.state⟩, hv⟩

theorem Answering.agrees_reply (h : o.Answering c) (hu : o.Undisturbed c future)
    {reply : Option Frame}
    (hv : c.visible ++ (Interpreter.send reply ++
      o.continues c.visible (c.codec.unread ++ future)) = o.shows) :
    o.Agrees (c.reply reply) future := by
  unfold Connection.reply
  cases reply with
  | none => exact h.agrees_awaitFrame hv
  | some frame =>
    simp only [Connection.send, hu.write]
    have hemit : o.Answering (c.emit (.write frame.encode)) := ⟨h.client, h.connected, h.state⟩
    refine hemit.agrees_awaitFrame ?_
    have hvisible : (c.emit (.write frame.encode)).visible = c.visible ++ [.write frame.encode] :=
      (Connection.adds_emit c _).visible
    rw [hvisible, continues_write, List.append_assoc]
    exact hv

theorem toFrame_of_fault (code : CloseCode) :
    (Message.close (some ⟨code, ""⟩)).toFrame = Frame.close (some code) "" := by
  have hclip : Text.clip Frame.maxCloseReason "" = "" := Text.clip_eq_self (by decide)
  rw [Message.toFrame, hclip]

theorem reported_of_fault {e : Error} (he : e.IsFault) (client : String) :
    reported client (some e) = [.call (.error client e)] := by
  rw [reported, if_neg he.kind_ne.1]

theorem Undisturbed.enter (h : o.Undisturbed c future) (s : ConnectionState) :
    o.Undisturbed (c.enter s) future :=
  { h with }

/-- A close frame that is written while the state changes to closing is all that is seen of it. -/
theorem adds_close (c : Connection) (frame : Frame) :
    c.Adds ((c.enter .closing).emit (.write frame.encode)) [.write frame.encode] :=
  (Connection.adds_enter c .closing).trans (Connection.adds_emit _ _)

theorem Answering.agrees_fail (h : o.Answering c) (hu : o.Undisturbed c future) {e : Error}
    (he : e.IsFault) (hv : c.visible ++ Interpreter.refuse o.client e = o.shows) :
    o.Agrees (c.fail e) future := by
  obtain ⟨code, hcode⟩ := he
  have hsend : c.state.canSend = true := by rw [h.state]; rfl
  simp only [Connection.fail, hcode, Connection.closeWith, hsend, if_true, Connection.send,
    (hu.enter .closing).write, toFrame_of_fault]
  refine ⟨h.client, h.connected, ?_⟩
  show ((c.enter .closing).emit (.write _)).visible ++ _ = _
  rw [(adds_close c _).visible, reported_of_fault ⟨code, hcode⟩, List.append_assoc, ← hv,
    Interpreter.refuse, hcode]
  rfl

theorem Answering.agrees_part (h : o.Answering c) (hu : o.Undisturbed c future) {frame : Frame}
    {verdict : Option Error}
    (hv : c.visible ++ .write frame.encode :: reported o.client verdict = o.shows) :
    o.Agrees ((((c.enter .closing).sendAnyway frame).enter .closed).finish verdict) future := by
  simp only [Connection.sendAnyway, Connection.send, (hu.enter .closing).write]
  refine agrees_finish (c := ((c.enter .closing).emit (.write frame.encode)).enter .closed)
    h.client h.connected ?_
  rw [((adds_close c frame).trans (Connection.adds_enter _ .closed)).visible, List.append_assoc,
    ← hv]
  rfl

theorem Answering.agrees_told (h : o.Answering c) (hu : o.Undisturbed c future) (call : Call)
    {reply : Option Frame}
    (hv : c.visible ++ .call call :: (Interpreter.send reply ++
      o.continues (c.visible ++ [.call call]) (c.codec.unread ++ future)) = o.shows) :
    o.Agrees ((c.notify call).reply reply) future := by
  have hnotify : o.Answering (c.notify call) := ⟨h.client, h.connected, h.state⟩
  have hu' : o.Undisturbed (c.notify call) future := { hu with }
  have hadds : c.Adds (c.notify call) [.call call] := Connection.adds_emit c _
  refine hnotify.agrees_reply hu' ?_
  rw [hadds.visible, List.append_assoc]
  exact hv

/-- A frame is answered as the interpreter answers it. -/
theorem Answering.agrees_dispatch (h : o.Answering c) (hu : o.Undisturbed c future) {f : Frame}
    {frames : List Frame} {e : Error}
    (hrest : Frame.ofStream o.config.limits (c.codec.unread ++ future) = (frames, e))
    (hv : c.visible ++ Interpreter.run o.application o.client (Connection.callsOf c.visible)
      (f :: frames) e = o.shows) :
    o.Agrees (c.dispatch f) future := by
  have hrun : ∀ seen, o.continues seen (c.codec.unread ++ future) =
      Interpreter.run o.application o.client (Connection.callsOf seen) frames e := by
    intro seen
    rw [continues, Interpreter.interpret, hrest]
  unfold Connection.dispatch
  cases hm : Message.ofFrame f with
  | ok m =>
    simp only [Interpreter.run, hm] at hv
    match m with
    | .text content =>
      refine h.agrees_told hu (.message c.client content) ?_
      rw [handler_notify, h.client, hu.application, hrun, Connection.callsOf_append]
      exact hv
    | .binary data =>
      refine h.agrees_told hu (.binary c.client data) ?_
      rw [handler_notify, h.client, hu.application, hrun, Connection.callsOf_append]
      exact hv
    | .ping data =>
      refine h.agrees_reply hu ?_
      rw [hrun]
      exact hv
    | .pong data =>
      refine h.agrees_awaitFrame ?_
      rw [hrun]
      exact hv
    | .close content =>
      show o.Agrees ((((c.enter .closing).sendAnyway (Message.close content).toFrame).enter
        .closed).finish none) future
      rw [Message.toFrame_of_ofFrame hm]
      refine h.agrees_part hu ?_
      exact hv
  | error fault =>
    have hfault := Message.isFault_of_ofFrame hm
    simp only [Interpreter.run, hm] at hv
    simp only
    split
    · unfold Connection.answerBadClose
      refine h.agrees_part hu ?_
      rw [reported_of_fault hfault]
      exact hv
    · exact h.agrees_fail hu hfault hv

end Opening
end WebSocket
