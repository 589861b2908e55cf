import WebSocket.Proofs.Connection.Answer
import WebSocket.Proofs.Connection.Refinement

/-
How a client is let in.  A connection that is handed the head of an opening in one piece reads it,
answers it and is open (`Opening.after_arrival`), whatever its server is set to and whoever else is
on it.  What an open connection does can so be followed from there, without running the handshake.
-/
namespace WebSocket
namespace Opening

open Connection (Move)

/-- The moves by which the client of an opening is let in. -/
def arrival (o : Opening) : List Move :=
  [.step, .event (.deliver [o.head]), .step, .step]

section

variable (o : Opening) (admission : Admission.Controller) (now time : Nat)

/-- The connection of a client that has been let in without a permit. -/
def entered : Connection :=
  { Connection.new o.config o.application o.peer admission none now time with
    client := o.client
    state := .open
    phase := .awaitingFrame (o.config.timeouts.idle.map (now + ·))
    connected := true
    log := [.call (.connect o.client), .enter .open,
      .write (Bytes.ofText o.request.acceptResponse), .enter .handshaking] }

theorem handshake_head {c : Connection} (hconfig : c.config = o.config) (hpeer : c.peer = o.peer)
    (hpermit : c.permit = none) (hwrite : c.CanWrite) :
    c.handshake o.head = { c with
      client := o.client
      state := .open
      phase := .awaitingFrame (o.config.timeouts.idle.map (c.now + ·))
      connected := true
      log := .call (.connect o.client) :: .enter .open ::
        .write (Bytes.ofText o.request.acceptResponse) :: .enter .handshaking :: c.log } := by
  have hjudge : (c.enter .handshaking).config.policy.judge o.head = .ok o.request := by
    rw [← o.judged, ← hconfig]
    rfl
  have hidentify : Http.identify (c.enter .handshaking).peer o.request.headers = o.client := by
    rw [client, ← hpeer]
    rfl
  have hwrites : ∀ data, ({ c.enter .handshaking with client := o.client } : Connection).write data =
      (({ c.enter .handshaking with client := o.client } : Connection).emit (.write data), none) :=
    Connection.CanWrite.write ⟨hwrite.writes, hwrite.flushes⟩
  have hre : (c.enter .handshaking).reidentify o.request =
      ({ c.enter .handshaking with client := o.client }, none) := by
    unfold Connection.reidentify
    simp only [hidentify]
    split
    · rename_i hsame
      rw [hsame]
    · have hnone : (c.enter .handshaking).permit = none := hpermit
      rw [hnone]
  simp only [Connection.handshake, hjudge, hre, Connection.accept, hwrites]
  rw [← hconfig]
  rfl

theorem isEmpty_head : o.head.isEmpty = false := by
  obtain ⟨i, hlength, -⟩ := o.whole
  cases h : o.head with
  | nil =>
    rw [h] at hlength
    exact absurd hlength (by simp [Http.headEnd, Http.lineEnd])
  | cons => rfl

theorem scanHead_head : scanHead o.config.limits o.head = .found o.head [] := by
  have hscan := scanHead_stream { o with rest := [] }
  rwa [List.append_nil] at hscan

/-! ## Arriving -/

/-- The connection that awaits the head of the client's request. -/
def awaiting (codec : Codec) : Connection :=
  { Connection.new o.config o.application o.peer admission none now time with
    phase := .awaitingHead (o.config.timeouts.handshake.map (now + ·))
    codec }

theorem awaiting_deliver :
    (o.awaiting admission now time (.new o.config.limits)).move (.event (.deliver [o.head])) =
      o.awaiting admission now time ⟨o.config.limits, [], ⟨[.bytes o.head], false⟩⟩ := by
  simp [awaiting, Connection.move, Connection.apply, Inbox.deliver, o.isEmpty_head,
    Connection.new, Codec.new, Inbox.empty]

theorem awaiting_read :
    (o.awaiting admission now time ⟨o.config.limits, [], ⟨[.bytes o.head], false⟩⟩).move .step =
      o.awaiting admission now time ⟨o.config.limits, o.head, ⟨[], false⟩⟩ := by
  have hwanting : scanHead o.config.limits [] = .wanting := rfl
  simp [awaiting, Connection.move, Connection.advance, Connection.step?, Connection.stepHead?,
    Connection.new, Codec.stepHead, Codec.step, hwanting]

theorem awaiting_handshake :
    (o.awaiting admission now time ⟨o.config.limits, o.head, ⟨[], false⟩⟩).move .step =
      (o.awaiting admission now time (.new o.config.limits)).handshake o.head := by
  simp [awaiting, Connection.move, Connection.advance, Connection.step?, Connection.stepHead?,
    Connection.new, Codec.stepHead, Codec.step, o.scanHead_head, Codec.new, Inbox.empty]

/-- The client of an opening is let in. -/
theorem after_arrival :
    (Connection.new o.config o.application o.peer admission none now time).after o.arrival =
      o.entered admission now time := by
  show ((((o.awaiting admission now time (.new o.config.limits)).move _).move .step).move .step) =
    _
  rw [awaiting_deliver, awaiting_read, awaiting_handshake, o.handshake_head rfl rfl rfl ⟨rfl, rfl⟩]
  rfl

theorem advance_arrival :
    ((Connection.new o.config o.application o.peer admission none now time).after
      [.step, .event (.deliver [o.head]), .step]).advance = o.entered admission now time :=
  o.after_arrival admission now time

end

/-- A greeting on a server at which a connection may be idle for a second. -/
def hasty : Opening where
  config := { Config.default with timeouts := { Timeouts.default with idle := some 1000 } }
  application := greeting.application
  peer := greeting.peer
  head := greeting.head
  rest := greeting.rest
  request := greeting.request
  whole := greeting.whole
  judged := greeting.judged

end Opening
end WebSocket
