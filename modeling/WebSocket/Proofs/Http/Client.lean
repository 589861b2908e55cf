import WebSocket.Http.Client
import WebSocket.Proofs.Http.Complete
import WebSocket.Proofs.Network.Receiving

/-
The response that a client reads does not depend on how its bytes are cut on their way.  Reading
stops at the end of the stream, or before it at bytes that make a complete response; either way what
has been read decodes as the whole stream does (`Client.decode_readResponse`).  The calls of
`receive` are those of any state: `Brings` says what they bring from it.
-/
namespace WebSocket
namespace Http
namespace Client

variable {σ : Type} {receive : StateM σ (Except SocketError Bytes)}

/-- The calls of `receive` from a state on bring the chunks, none of them empty, and then the end of
the stream. -/
inductive Brings (receive : StateM σ (Except SocketError Bytes)) : σ → List Bytes → Prop
  | ended {s s' : σ} {e : SocketError} (h : receive.run s = (.error e, s'))
      (hkind : e.kind = .connectionClosed) : Brings receive s []
  | chunk {s s' : σ} {chunk : Bytes} {chunks : List Bytes} (h : receive.run s = (.ok chunk, s'))
      (hne : chunk ≠ []) (rest : Brings receive s' chunks) : Brings receive s (chunk :: chunks)

/-- Hands out the pieces of a stream one after another, and then reports its end. -/
def handOut : StateM (List Bytes) (Except SocketError Bytes) := fun
  | [] => (.error ⟨.connectionClosed, .peerClosed⟩, [])
  | piece :: pieces => (.ok piece, pieces)

/-- A stream may come in any pieces. -/
theorem brings_handOut {pieces : List Bytes} (h : ∀ piece ∈ pieces, piece ≠ []) :
    Brings handOut pieces pieces := by
  induction pieces with
  | nil => exact .ended rfl rfl
  | cons piece pieces ih =>
    exact .chunk rfl (h piece List.mem_cons_self) (ih fun p hp => h p (List.mem_cons_of_mem piece hp))

/-- A socket brings what has arrived at it, if nothing more can and no mishap waits for it. -/
theorem exists_brings_receive {socket : Socket} {id limit : Nat} {sys : System}
    {own : NetworkSocket} (hid : socket.id = some id) (hlimit : 0 < limit)
    (hown : sys.network.socket? id = some own) (hconnected : own.isConnected = true)
    (hended : own.ended = true) (hfaults : ∀ f ∈ sys.faults, f.call ≠ .receive) :
    ∃ chunks, Brings (socket.receive limit).run sys chunks ∧ chunks.flatten = own.arrived := by
  induction hsize : own.arrived.length using Nat.strong_induction_on generalizing sys own with
  | _ size ih =>
    have hquiet : own.isQuiet = false := by simp [NetworkSocket.isQuiet, hended]
    have hrun := Socket.run_receive hid hlimit hown hconnected hquiet hfaults
    by_cases hempty : own.arrived = []
    · rw [if_pos hempty] at hrun
      exact ⟨[], .ended hrun rfl, hempty.symm⟩
    · rw [if_neg hempty] at hrun
      have hpos := List.length_pos_of_ne_nil hempty
      have hless : (own.arrived.drop limit).length < size := by
        rw [List.length_drop]
        omega
      have htaken : own.arrived.take limit ≠ [] := by simp [hempty, Nat.ne_of_gt hlimit]
      have hleft : (sys.skip id limit).network.socket? id =
          some { own with arrived := own.arrived.drop limit } := Network.socket?_modify hown _
      obtain ⟨chunks, hchunks, hall⟩ := ih _ hless hleft hconnected hended hfaults rfl
      refine ⟨own.arrived.take limit :: chunks, .chunk hrun htaken hchunks, ?_⟩
      rw [List.flatten_cons, hall, List.take_append_drop]

theorem Brings.length_le {s : σ} {chunks : List Bytes} (h : Brings receive s chunks) :
    chunks.length ≤ chunks.flatten.length := by
  induction h with
  | ended => exact Nat.le_refl _
  | chunk _ hne _ ih =>
    have hpos := List.length_pos_of_ne_nil hne
    simp only [List.flatten_cons, List.length_append, List.length_cons]
    omega

theorem run_lift_bind {ε α β : Type} (a : StateM σ α) (k : α → ExceptT ε (StateM σ) β) (s : σ) :
    (ExceptT.lift a >>= k).run.run s = (k (a.run s).1).run.run (a.run s).2 :=
  rfl

/-- What one call of `receive` brings is absorbed, and reading goes on or is done. -/
theorem run_readFrom_succ (c : Client) (fuel : Nat) (raw : Bytes) (s : σ) :
    (c.readFrom receive (fuel + 1) raw).run.run s =
      match c.absorb raw (receive.run s).1 with
      | .more raw => (c.readFrom receive fuel raw).run.run (receive.run s).2
      | .done result => (result, (receive.run s).2) := by
  rw [readFrom, run_lift_bind]
  cases c.absorb raw (receive.run s).1 with
  | more raw => rfl
  | done result => cases result <;> rfl

/-- Bytes within the limit are kept: reading is done once they are complete. -/
theorem absorb_ok {c : Client} {raw chunk : Bytes}
    (hsize : (raw ++ chunk).length ≤ c.maxResponseSize) :
    c.absorb raw (.ok chunk) =
      if Response.isComplete (raw ++ chunk) then .done (.ok (raw ++ chunk))
      else .more (raw ++ chunk) := by
  simp only [absorb]
  rw [if_neg (Nat.not_lt_of_le hsize)]

/-- Behind bytes that have been read, all that comes is read, or as much of it as makes a complete
response. -/
theorem readFrom_of_brings (c : Client) {s : σ} {chunks : List Bytes}
    (h : Brings receive s chunks) (fuel : Nat) (raw : Bytes) (hfuel : chunks.length < fuel)
    (hsize : (raw ++ chunks.flatten).length ≤ c.maxResponseSize) :
    ∃ taken left, ((c.readFrom receive fuel raw).run.run s).1 = .ok taken ∧
      raw ++ chunks.flatten = taken ++ left ∧ (left = [] ∨ Response.isComplete taken = true) := by
  obtain ⟨fuel, rfl⟩ : ∃ n, fuel = n + 1 := ⟨fuel - 1, by omega⟩
  induction h generalizing fuel raw with
  | ended h hkind =>
    refine ⟨raw, [], ?_, rfl, .inl rfl⟩
    rw [run_readFrom_succ, h]
    simp only [absorb, if_pos hkind]
  | @chunk s s' chunk chunks h _ _ ih =>
    rw [List.flatten_cons, ← List.append_assoc] at hsize ⊢
    rw [List.length_cons] at hfuel
    obtain ⟨fuel, rfl⟩ : ∃ n, fuel = n + 1 := ⟨fuel - 1, by omega⟩
    have hhere : (raw ++ chunk).length ≤ c.maxResponseSize := by
      rw [List.length_append] at hsize
      omega
    rw [run_readFrom_succ, h]
    simp only [absorb_ok hhere]
    by_cases hcomplete : Response.isComplete (raw ++ chunk) = true
    · rw [if_pos hcomplete]
      exact ⟨raw ++ chunk, chunks.flatten, rfl, rfl, .inr hcomplete⟩
    · rw [if_neg hcomplete]
      exact ih _ hsize fuel (by omega)

/-- However the bytes of a stream are cut, what is read of them is a prefix that decodes as all of
them do. -/
theorem decode_readResponse (c : Client) {s : σ} {chunks : List Bytes}
    (h : Brings receive s chunks) (hsize : chunks.flatten.length ≤ c.maxResponseSize) :
    ∃ taken, ((c.readResponse receive).run.run s).1 = .ok taken ∧ taken <+: chunks.flatten ∧
      Response.decode taken = Response.decode chunks.flatten := by
  have hcount := h.length_le
  obtain ⟨taken, left, hread, hall, hend⟩ :=
    c.readFrom_of_brings h (c.maxResponseSize + 2) [] (by omega) hsize
  rw [List.nil_append] at hall
  refine ⟨taken, hread, ⟨left, hall.symm⟩, ?_⟩
  rcases hend with rfl | hcomplete
  · rw [hall, List.append_nil]
  · rw [hall, Response.decode, Response.decode, Response.read_append hcomplete]

/-- A response in three pieces, with another piece behind it that is left. -/
theorem decode_readResponse_of_pieces :
    let pieces := ["HTTP/1.1 200 OK\r\nContent-Le", "ngth: 2\r\n\r", "\nok, and m", "ore"].map
      Bytes.ofText
    Brings handOut pieces pieces ∧ pieces.flatten.length ≤ default.maxResponseSize ∧
      ((default.readResponse handOut).run.run pieces).1 = .ok (pieces.take 3).flatten ∧
      Response.decode (pieces.take 3).flatten = Response.decode pieces.flatten := by
  intro pieces
  have hbrings : Brings handOut pieces pieces := brings_handOut (by decide +kernel)
  have hsize : pieces.flatten.length ≤ default.maxResponseSize := by decide +kernel
  have hread : ((default.readResponse handOut).run.run pieces).1 =
      .ok (pieces.take 3).flatten := by decide +kernel
  obtain ⟨taken, htaken, -, hdecode⟩ := decode_readResponse default hbrings hsize
  rw [hread] at htaken
  cases htaken
  exact ⟨hbrings, hsize, hread, hdecode⟩

end Client
end Http
end WebSocket
