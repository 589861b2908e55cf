import WebSocket.Connection.Interpreter

/-
What of a connection's doings can be seen: what it writes, and what it tells the application.  An
operation adds to what has been done (`Connection.Adds`); an end adds the report of the verdict
and the farewell (`Connection.adds_finish`).
-/
namespace WebSocket
namespace Connection

/-- One connection has done what the other has, and after that what shows. -/
def Adds (c next : Connection) (shown : List Effect) : Prop :=
  ∃ new, next.log = new ++ c.log ∧ new.reverse.filter Effect.isVisible = shown

theorem Adds.visible {c next : Connection} {shown : List Effect} (h : c.Adds next shown) :
    next.visible = c.visible ++ shown := by
  obtain ⟨new, hlog, rfl⟩ := h
  rw [Connection.visible, Connection.visible, effects, effects, hlog, List.reverse_append,
    List.filter_append]

theorem Adds.mem_log {c next : Connection} {shown : List Effect} (h : c.Adds next shown)
    {e : Effect} (he : e ∈ c.log) : e ∈ next.log := by
  obtain ⟨new, hlog, -⟩ := h
  rw [hlog]
  exact List.mem_append_right _ he

theorem Adds.mem_log_of_shown {c next : Connection} {shown : List Effect} (h : c.Adds next shown)
    {e : Effect} (he : e ∈ shown) : e ∈ next.log := by
  obtain ⟨new, hlog, rfl⟩ := h
  rw [hlog]
  exact List.mem_append_left _ (List.mem_reverse.mp (List.mem_filter.mp he).1)

theorem Adds.refl (c : Connection) : c.Adds c [] :=
  ⟨[], rfl, rfl⟩

theorem Adds.trans {c d e : Connection} {first second : List Effect} (h : c.Adds d first)
    (h' : d.Adds e second) : c.Adds e (first ++ second) := by
  obtain ⟨new, hlog, rfl⟩ := h
  obtain ⟨new', hlog', rfl⟩ := h'
  refine ⟨new' ++ new, by rw [hlog', hlog, List.append_assoc], ?_⟩
  rw [List.reverse_append, List.filter_append]

theorem adds_emit (c : Connection) (e : Effect) :
    c.Adds (c.emit e) ([e].filter Effect.isVisible) :=
  ⟨[e], rfl, rfl⟩

theorem adds_enter (c : Connection) (s : ConnectionState) : c.Adds (c.enter s) [] :=
  ⟨[.enter s], rfl, rfl⟩

theorem exists_adds_write (c : Connection) (data : Bytes) :
    ∃ shown, c.Adds (c.write data).1 shown := by
  rcases c.write_cases data with ⟨-, -, hw⟩ | ⟨failure, -, hw⟩ | ⟨failure, -, -, hw⟩ <;> rw [hw]
  · exact ⟨_, adds_emit c _⟩
  · exact ⟨_, adds_emit c _⟩
  · exact ⟨_, (adds_emit c _).trans (adds_emit _ _)⟩

/-- How a verdict is reported to the application. -/
def reported (client : String) : Option Error → List Effect
  | some e => if e.kind = .peerClosed then [] else [.call (.error client e)]
  | none => []

theorem adds_report (c : Connection) (verdict : Option Error) :
    c.Adds (c.report verdict) (reported c.client verdict) := by
  cases verdict with
  | none => exact .refl c
  | some e =>
    by_cases he : e.kind = .peerClosed
    · simp only [report, reported, if_pos he]
      exact .refl c
    · simp only [report, reported, if_neg he]
      exact adds_emit c _

theorem adds_releasePermit (c : Connection) : c.Adds c.releasePermit [] := by
  unfold releasePermit
  cases c.permit with
  | none => exact .refl c
  | some permit => exact adds_emit c _

theorem adds_farewell (c : Connection) :
    c.Adds c.farewell (if c.connected then [.call (.disconnect c.client)] else []) := by
  unfold farewell
  by_cases hc : c.connected
  · rw [if_pos hc, if_pos hc]
    exact adds_emit c _
  · rw [if_neg hc, if_neg hc]
    exact .refl c

theorem client_report (c : Connection) (verdict : Option Error) :
    (c.report verdict).client = c.client ∧ (c.report verdict).connected = c.connected := by
  unfold report
  split
  · split <;> exact ⟨rfl, rfl⟩
  · exact ⟨rfl, rfl⟩

theorem client_releasePermit (c : Connection) :
    c.releasePermit.client = c.client ∧ c.releasePermit.connected = c.connected := by
  unfold releasePermit
  split <;> exact ⟨rfl, rfl⟩

/-- The end of a connection shows the verdict, and the farewell of a client that the application
knows of. -/
theorem adds_finish (c : Connection) (verdict : Option Error) :
    c.Adds (c.finish verdict) (reported c.client verdict ++
      if c.connected then [.call (.disconnect c.client)] else []) := by
  obtain ⟨hclient, hconnected⟩ := client_report c verdict
  obtain ⟨hclient', hconnected'⟩ :=
    client_releasePermit (((c.report verdict).enter .closed).emit .shut)
  have hshut : (c.report verdict).Adds (((c.report verdict).enter .closed).emit .shut) [] :=
    (adds_enter _ .closed).trans (adds_emit _ .shut)
  have hend := adds_farewell (((c.report verdict).enter .closed).emit .shut).releasePermit
  rw [hclient', hconnected'] at hend
  replace hend : Connection.Adds _ _ (if (c.report verdict).connected then
    [.call (.disconnect (c.report verdict).client)] else []) := hend
  rw [hclient, hconnected] at hend
  exact (adds_report c verdict).trans ((hshut.trans (adds_releasePermit _)).trans hend)

/-- A handshake that is refused ends the connection, after what has been written. -/
theorem reject_eq_finish (c : Connection) (e : Error) :
    ∃ last shown, c.Adds last shown ∧ c.reject e = last.finish (some e) := by
  unfold reject
  cases c.refusal? e with
  | none => exact ⟨c, [], .refl c, rfl⟩
  | some status =>
    obtain ⟨shown, hadds⟩ := exists_adds_write c status.refusalBytes
    exact ⟨_, shown, hadds, rfl⟩

/-! ## What effects write and call -/

theorem bytesOf_visible (c : Connection) : bytesOf c.visible = bytesOf c.effects := by
  unfold visible
  induction c.effects with
  | nil => rfl
  | cons e effects ih =>
    show _ = _ ++ bytesOf effects
    rw [← ih]
    cases e <;> rfl

theorem callsOf_append (effects more : List Effect) :
    callsOf (effects ++ more) = callsOf effects ++ callsOf more :=
  List.filterMap_append

theorem callsOf_visible (c : Connection) : callsOf c.visible = callsOf c.effects := by
  unfold visible callsOf
  rw [List.filterMap_filter]
  congr 1
  funext e
  cases e <;> rfl

end Connection
end WebSocket
