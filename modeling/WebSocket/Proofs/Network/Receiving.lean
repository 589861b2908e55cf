import WebSocket.Network.Socket

/-
What a socket receives.  As long as no mishap waits for the call, it takes from the front of what has
arrived and leaves the rest.  If nothing has arrived although nothing more can, the peer is reported
to have closed (`Socket.run_receive`).
-/
namespace WebSocket

theorem Network.socket?_modify {n : Network} {id : Nat} {s : NetworkSocket}
    (h : n.socket? id = some s) (f : NetworkSocket → NetworkSocket) :
    (n.modify id f).socket? id = some (f s) := by
  obtain ⟨sockets, nextId, nextPort⟩ := n
  simp only [socket?, modify] at h ⊢
  induction sockets with
  | nil => cases h
  | cons entry sockets ih =>
    obtain ⟨other, t⟩ := entry
    by_cases hid : id = other
    · subst hid
      simp only [List.lookup_cons_self, Option.some.injEq] at h
      simp only [List.map_cons, beq_self_eq_true, if_true, List.lookup_cons_self, h]
    · have hne : (id == other) = false := beq_false_of_ne hid
      have hne' : (other == id) = false := beq_false_of_ne (Ne.symm hid)
      simp only [List.lookup_cons, hne] at h
      simp only [List.map_cons, hne', List.lookup_cons, hne, Bool.false_eq_true, if_false]
      exact ih h

/-- The system after some of what has arrived at a socket has been taken. -/
def System.skip (sys : System) (id count : Nat) : System :=
  { sys with
    network := sys.network.modify id fun s => { s with arrived := s.arrived.drop count } }

theorem System.takeMishap_of_forall_ne {call : SystemCall} {faults : List Fault}
    (h : ∀ f ∈ faults, f.call ≠ call) : System.takeMishap call faults = (none, faults) := by
  induction faults with
  | nil => rfl
  | cons f faults ih =>
    have hrest := ih fun g hg => h g (List.mem_cons_of_mem f hg)
    rw [System.takeMishap, if_neg (h f List.mem_cons_self), hrest]

namespace Socket

theorem run_get_bind {ε σ α : Type} (k : σ → ExceptT ε (StateM σ) α) (s : σ) :
    (get >>= k).run.run s = (k s).run.run s :=
  rfl

/-- A call that succeeds is not made again. -/
theorem run_persist_of_ok {α : Type} (kind : SocketErrorKind) (f : System → Except Int α × System)
    {sys next : System} {a : α} (h : f sys = (.ok a, next)) :
    (persist kind f).run.run sys = (.ok a, next) := by
  have hretry (fuel : Nat) : (retry kind f fuel).run.run sys = (.ok a, next) := by
    cases fuel with
    | zero => simp only [retry, attempt, ExceptT.run_mk, StateT.run, h]
    | succ fuel =>
      rw [retry, run_get_bind, h]
      rfl
  exact hretry sys.faults.length

/-- What is received is taken from the front of what has arrived, and nothing is the end. -/
theorem run_receive {socket : Socket} {id limit : Nat} {sys : System} {own : NetworkSocket}
    (hid : socket.id = some id) (hlimit : 0 < limit) (hown : sys.network.socket? id = some own)
    (hconnected : own.isConnected = true) (hquiet : own.isQuiet = false)
    (hfaults : ∀ f ∈ sys.faults, f.call ≠ .receive) :
    (socket.receive limit).run.run sys =
      (if own.arrived = [] then .error ⟨.connectionClosed, .peerClosed⟩
        else .ok (own.arrived.take limit), sys.skip id limit) := by
  have hcall : sys.perform .receive (fun n => n.receive id limit) =
      (.ok (own.arrived.take limit), sys.skip id limit) := by
    simp [System.perform, System.takeMishap_of_forall_ne hfaults, System.act, Network.receive,
      hown, hconnected, hquiet, System.skip]
  have hdata := run_persist_of_ok .recvFailed
    (fun sys => sys.perform .receive fun n => n.receive id limit) hcall
  unfold receive opened
  simp only [hid, pure_bind, ExceptT.run_bind, StateT.run_bind]
  rw [hdata]
  by_cases hempty : own.arrived = []
  · have hwanted : decide (limit > 0) = true := decide_eq_true hlimit
    rw [if_pos hempty, hempty, List.take_nil]
    simp only [hwanted]
    rfl
  · rw [if_neg hempty]
    cases htaken : own.arrived.take limit with
    | nil => exact absurd htaken (by simp [hempty, Nat.ne_of_gt hlimit])
    | cons b taken => rfl

end Socket
end WebSocket
