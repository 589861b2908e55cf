import WebSocket.Proofs.Network.Receiving

/-
What a socket sends.  An operation that sends all of its bytes makes one call after the other, each
with what the calls before have left over, and makes a call again that is interrupted.  If it
succeeds, then the calls have taken all bytes, in order (`Socket.sends_of_run_sendAll`).
-/
namespace WebSocket

section Runs

variable {ε σ α β : Type} {a : ExceptT ε (StateM σ) α} {k : α → ExceptT ε (StateM σ) β} {s t u : σ}

theorem run_bind_of_error {e : ε} (ha : a.run.run s = (.error e, u)) :
    (a >>= k).run.run s = (.error e, u) := by
  simp only [ExceptT.run_bind, StateT.run_bind, ha]
  rfl

theorem run_bind_of_ok {x : α} (ha : a.run.run s = (.ok x, u)) :
    (a >>= k).run.run s = (k x).run.run u := by
  simp only [ExceptT.run_bind, StateT.run_bind, ha]
  rfl

/-- What gives a result gives one in each of its parts. -/
theorem run_bind_eq_ok {b : β} (h : (a >>= k).run.run s = (.ok b, t)) :
    ∃ x u, a.run.run s = (.ok x, u) ∧ (k x).run.run u = (.ok b, t) := by
  rcases ha : a.run.run s with ⟨e | x, u⟩
  · rw [run_bind_of_error ha] at h
    cases h
  · rw [run_bind_of_ok ha] at h
    exact ⟨x, u, rfl, h⟩

/-- What fails does so in one of its parts. -/
theorem run_bind_eq_error {e : ε} (h : (a >>= k).run.run s = (.error e, t)) :
    a.run.run s = (.error e, t) ∨
      ∃ x u, a.run.run s = (.ok x, u) ∧ (k x).run.run u = (.error e, t) := by
  rcases ha : a.run.run s with ⟨e' | x, u⟩
  · rw [run_bind_of_error ha] at h
    cases h
    exact .inl rfl
  · rw [run_bind_of_ok ha] at h
    exact .inr ⟨x, u, rfl, h⟩

end Runs

namespace System

/-- Calls on a socket take bytes, in order, part after part. -/
inductive Sends (id : Nat) : System → Bytes → System → Prop
  | done (sys : System) : Sends id sys [] sys
  | part {sys between next : System} {data : Bytes} {count : Nat}
    (hcall : sys.send id data = (.ok count, between)) (hcount : count ≠ 0)
    (hrest : Sends id between (data.drop count) next) : Sends id sys data next
  | again {sys between next : System} {data : Bytes} {code : Int}
    (hcall : sys.send id data = (.error code, between))
    (hcode : Errno.failureClass code = .interrupted) (hrest : Sends id between data next) :
    Sends id sys data next

end System

namespace Socket

/-- What holds before a call that succeeds, and before a call that is interrupted if it holds after
it, holds before all calls of an operation that succeeds. -/
theorem run_retry_induction {α : Type} {kind : SocketErrorKind} {f : System → Except Int α × System}
    {a : α} {next : System} {P : System → Prop} (hok : ∀ sys, f sys = (.ok a, next) → P sys)
    (hagain : ∀ sys between code, f sys = (.error code, between) →
      Errno.failureClass code = .interrupted → P between → P sys)
    {fuel : Nat} {sys : System} (h : (retry kind f fuel).run.run sys = (.ok a, next)) : P sys := by
  induction fuel generalizing sys with
  | zero =>
    simp only [retry, attempt, ExceptT.run_mk, StateT.run] at h
    rcases hf : f sys with ⟨code | b, between⟩ <;> rw [hf] at h <;> cases h
    exact hok sys hf
  | succ fuel ih =>
    rw [retry, run_get_bind] at h
    rcases hf : f sys with ⟨code | b, between⟩
    · simp only [hf] at h
      by_cases hcode : Errno.failureClass code = .interrupted
      · simp only [hcode, if_true] at h
        exact hagain sys between code hf hcode (ih h)
      · simp only [hcode, if_false] at h
        cases h
    · simp only [hf] at h
      cases h
      exact hok sys hf

variable {socket : Socket} {id : Nat}

theorem sends_of_run_sendParts (hid : socket.id = some id) {fuel : Nat} {data : Bytes}
    (hfuel : data.length < fuel) {sys next : System}
    (h : (socket.sendParts fuel data).run.run sys = (.ok (), next)) : sys.Sends id data next := by
  induction fuel generalizing data sys with
  | zero => exact absurd hfuel (Nat.not_lt_zero _)
  | succ fuel ih =>
    cases data with
    | nil =>
      cases h
      exact .done _
    | cons b rest =>
      rw [sendParts] at h
      obtain ⟨count, between, hsend, h⟩ := run_bind_eq_ok h
      by_cases hcount : count = 0
      · rw [if_pos hcount] at h
        cases h
      · rw [if_neg hcount] at h
        unfold send opened at hsend
        simp only [hid, pure_bind] at hsend
        have hlength : ((b :: rest).drop count).length < fuel := by
          simp only [List.length_drop, List.length_cons] at hfuel ⊢
          omega
        have hrest : between.Sends id ((b :: rest).drop count) next := ih hlength h
        have hretry : (retry .sendFailed (fun sys => sys.send id (b :: rest))
            sys.faults.length).run.run sys = (.ok count, between) := hsend
        -- the calls that were interrupted have taken nothing and stand before this one
        exact run_retry_induction (P := fun sys => sys.Sends id (b :: rest) next)
          (fun _ hcall => .part hcall hcount hrest)
          (fun _ _ _ hcall hcode hafter => .again hcall hcode hafter) hretry

/-- When sending succeeds, all bytes have been sent. -/
theorem sends_of_run_sendAll (hid : socket.id = some id) {data : Bytes} {sys next : System}
    (h : (socket.sendAll data).run.run sys = (.ok (), next)) : sys.Sends id data next :=
  sends_of_run_sendParts hid (Nat.lt_succ_self _) h

end Socket
end WebSocket
