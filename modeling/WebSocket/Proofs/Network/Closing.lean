import WebSocket.Proofs.Network.Sending

/-
Sockets that have been closed.  Whatever is asked of such a socket changes nothing, and it is
refused as soon as the socket is looked for.  Some operations are over before that: those that name
an address of the other family, and the one that is to send no bytes at all
(`SocketOperation.Forestalled`).  All others fail as invalid (`Socket.refuses_after_close`).
-/
namespace WebSocket

/-- The operations on a socket that can fail, with what they are given. -/
inductive SocketOperation
  | bind (address : String) (port : Nat)
  | listen (backlog : Int)
  | accept
  | connect (address : String) (port : Nat)
  | send (data : Bytes)
  | sendAll (data : Bytes)
  | receive (limit : Nat)
  | setBlocking (blocking : Bool)
  | setReuse (reuse : Bool)
  | setReadTimeout (limit : Option Nat)
  | remoteAddress
  | remoteEndpoint
  | localEndpoint
  | release

namespace SocketOperation

/-- What an operation returns if it succeeds. -/
def Result : SocketOperation → Type
  | .accept => Socket × Endpoint
  | .send _ => Nat
  | .receive _ => Bytes
  | .remoteAddress => String
  | .remoteEndpoint => Endpoint
  | .localEndpoint => Endpoint
  | .release => Nat
  | _ => Unit

/-- Performs an operation on a socket. -/
def perform (s : Socket) : (op : SocketOperation) → SocketAction op.Result
  | .bind address port => s.bind address port
  | .listen backlog => s.listen backlog
  | .accept => s.accept
  | .connect address port => s.connect address port
  | .send data => s.send data
  | .sendAll data => s.sendAll data
  | .receive limit => s.receive limit
  | .setBlocking blocking => s.setBlocking blocking
  | .setReuse reuse => s.setReuse reuse
  | .setReadTimeout limit => s.setReadTimeout limit
  | .remoteAddress => s.remoteAddress
  | .remoteEndpoint => s.remoteEndpoint
  | .localEndpoint => s.localEndpoint
  | .release => s.release

/-- Whether an operation is over before the socket is looked for, although what it names is an
address. -/
def Forestalled (family : Family) : SocketOperation → Prop
  | .bind address _ => ∃ a, Address.ofText? address = some a ∧ a.family ≠ family
  | .connect address _ => ∃ a, Address.ofText? address = some a ∧ a.family ≠ family
  | .sendAll data => data = []
  | _ => False

end SocketOperation

namespace Socket

variable {α : Type} {s : Socket} {sys : System}

theorem id_close (s : Socket) (sys : System) : (s.close.run sys).1.id = none := by
  unfold close
  cases h : s.id with
  | none => exact h
  | some id => rfl

theorem family_close (s : Socket) (sys : System) : (s.close.run sys).1.family = s.family := by
  unfold close
  cases s.id <;> rfl

/-- What looks for a closed socket first fails, and changes nothing. -/
theorem run_opened_bind (h : s.id = none) (k : Nat → SocketAction α) :
    (s.opened >>= k).run.run sys = (.error { kind := .invalidArgument, fault := .closed }, sys) := by
  apply run_bind_of_error
  rw [opened, h]
  rfl

/-- A text is no address, or it is one of the family of the socket, or one of the other. -/
theorem resolve_cases (s : Socket) (kind : SocketErrorKind) (address : String) (port : Nat) :
    (Address.ofText? address = none ∧
        s.resolve kind address port = fail .invalidArgument (.notAddress address)) ∨
      ∃ a, Address.ofText? address = some a ∧
        ((a.family = s.family ∧ s.resolve kind address port = pure { address := a, port }) ∨
          a.family ≠ s.family ∧
            s.resolve kind address port = fail kind (.wrongFamily address s.family)) := by
  unfold resolve
  cases ha : Address.ofText? address with
  | none => exact .inl ⟨rfl, rfl⟩
  | some a =>
    refine .inr ⟨a, rfl, ?_⟩
    by_cases hf : a.family = s.family
    · exact .inl ⟨hf, if_pos hf⟩
    · exact .inr ⟨hf, if_neg hf⟩

/-- What looks for a closed socket behind an address of its family, or a text that is none, fails as
invalid. -/
theorem run_resolve_bind (h : s.id = none) {address : String}
    (ha : ¬ ∃ a, Address.ofText? address = some a ∧ a.family ≠ s.family) (kind : SocketErrorKind)
    (port : Nat) (k : Endpoint → Nat → SocketAction α) :
    ∃ fault, (s.resolve kind address port >>= fun e => s.opened >>= k e).run.run sys =
      (.error { kind := .invalidArgument, fault }, sys) := by
  rcases s.resolve_cases kind address port with ⟨-, hr⟩ | ⟨a, ho, ⟨-, hr⟩ | ⟨hf, -⟩⟩
  · exact ⟨.notAddress address, run_bind_of_error (by rw [hr]; rfl)⟩
  · refine ⟨.closed, ?_⟩
    rw [hr, pure_bind]
    exact run_opened_bind h _
  · exact absurd ⟨a, ho, hf⟩ ha

/-- An address of the other family is refused whether the socket is open or not. -/
theorem run_resolve_bind_of_foreign {address : String} {a : Address}
    (ha : Address.ofText? address = some a) (hf : a.family ≠ s.family) (kind : SocketErrorKind)
    (port : Nat) (k : Endpoint → SocketAction α) :
    (s.resolve kind address port >>= k).run.run sys =
      (.error { kind, fault := .wrongFamily address s.family }, sys) := by
  apply run_bind_of_error
  rcases s.resolve_cases kind address port with ⟨ho, -⟩ | ⟨b, ho, ⟨hb, -⟩ | ⟨-, hr⟩⟩
  · rw [ha] at ho
    cases ho
  · rw [ha] at ho
    cases ho
    exact absurd hb hf
  · rw [hr]
    rfl

/-- Bytes that are to be sent are looked at after the socket. -/
theorem run_sendAll_of_ne_nil (h : s.id = none) {data : Bytes} (hdata : data ≠ []) :
    (s.sendAll data).run.run sys = (.error { kind := .invalidArgument, fault := .closed }, sys) := by
  have hempty : data.isEmpty = false := List.isEmpty_eq_false_iff.mpr hdata
  rw [sendAll, sendParts, hempty]
  exact run_bind_of_error (run_opened_bind h _)

theorem run_sendAll_nil (s : Socket) (sys : System) : (s.sendAll []).run.run sys = (.ok (), sys) :=
  rfl

end Socket

namespace SocketOperation

open Socket

/-- An operation on a closed socket that is not over before fails as invalid, and changes nothing. -/
theorem run_perform_of_closed {s : Socket} (h : s.id = none) {op : SocketOperation}
    (hop : ¬ op.Forestalled s.family) (sys : System) :
    ∃ fault, (op.perform s).run.run sys = (.error { kind := .invalidArgument, fault }, sys) := by
  cases op with
  | bind address port => exact run_resolve_bind h hop .bindFailed port _
  | connect address port => exact run_resolve_bind h hop .connectFailed port _
  | sendAll data => exact ⟨.closed, run_sendAll_of_ne_nil h hop⟩
  | remoteAddress => exact ⟨.closed, run_bind_of_error (run_opened_bind h _)⟩
  | release =>
    refine ⟨.closed, ?_⟩
    show s.opened.run.run sys = _
    rw [opened, h]
    rfl
  | _ => exact ⟨.closed, run_opened_bind h _⟩

end SocketOperation

namespace Socket

/-- Whatever a socket was used for, once it is closed it stays so, and no operation on it changes
anything.  Every operation fails as invalid, but for three: sending no bytes at all succeeds, and an
address of the other family is what binding and connecting fail for. -/
theorem refuses_after_close (s : Socket) (before now : System) :
    let closed := (s.close.run before).1
    (closed.isClosed = true ∧ closed.close.run now = (closed, now)) ∧
      (∀ op : SocketOperation, ¬ op.Forestalled s.family → ∃ fault,
        (op.perform closed).run.run now = (.error { kind := .invalidArgument, fault }, now)) ∧
      (closed.sendAll []).run.run now = (.ok (), now) ∧
      ∀ address a port, Address.ofText? address = some a → a.family ≠ s.family →
        (closed.bind address port).run.run now =
            (.error { kind := .bindFailed, fault := .wrongFamily address s.family }, now) ∧
          (closed.connect address port).run.run now =
            (.error { kind := .connectFailed, fault := .wrongFamily address s.family }, now) := by
  intro closed
  have hid : closed.id = none := id_close s before
  have hfamily : closed.family = s.family := family_close s before
  refine ⟨⟨?_, ?_⟩, fun op hop => ?_, run_sendAll_nil closed now, fun address a port ha hf => ?_⟩
  · rw [isClosed, hid]
    rfl
  · rw [close, hid]
    rfl
  · exact SocketOperation.run_perform_of_closed hid (hfamily ▸ hop) now
  · rw [← hfamily] at hf ⊢
    exact ⟨run_resolve_bind_of_foreign ha hf .bindFailed port _,
      run_resolve_bind_of_foreign ha hf .connectFailed port _⟩

/-- A listener of version 6 that has been closed does not take an address of its own family. -/
theorem refuses_after_close_bind :
    let listener : Socket := { id := some 0, family := .ipv6 }
    let closed := (listener.close.run .empty).1
    let op := SocketOperation.bind "::1" 80
    ¬ op.Forestalled .ipv6 ∧ ∃ fault, (op.perform closed).run.run .empty =
      (.error { kind := .invalidArgument, fault }, .empty) := by
  intro listener closed op
  have hop : ¬ op.Forestalled .ipv6 := by
    rintro ⟨a, ha, hf⟩
    have hloopback : Address.ofText? "::1" = some (.loopback .ipv6) := by decide
    rw [hloopback] at ha
    cases ha
    exact hf rfl
  exact ⟨hop, (refuses_after_close listener .empty .empty).2.1 op hop⟩

/-- Not every operation on a closed socket fails as invalid: all of no bytes is sent. -/
theorem not_forall_refuses_after_close :
    ¬ ∀ (s : Socket) (before now : System) (op : SocketOperation), ∃ fault after,
      (op.perform (s.close.run before).1).run.run now =
        (.error { kind := .invalidArgument, fault }, after) := by
  intro h
  obtain ⟨fault, after, hrun⟩ := h { id := some 0, family := .ipv4 } .empty .empty (.sendAll [])
  cases hrun

end Socket
end WebSocket
