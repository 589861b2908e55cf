import WebSocket.Admission.Holding
import WebSocket.Connection.Run

/-
A connection among other holders of permits.  All of them share one controller of admission, and
each acts on its own permits.  The others may act between any two accesses of the connection to the
controller, so the step that takes up the head of the request is taken in two: the client is
identified, to which the permit may be passed on, and then the request is answered, which may give
the permit back.  With nothing in between the two make up the step (`Tenancy.exists_after_step`).
-/
namespace WebSocket
namespace Connection

/-- The connection once the head of a request has been judged and the client is identified, and
whether the request stands. -/
def identified (c : Connection) (head : Bytes) : Connection × Except Error Upgrade.Request :=
  let c := c.enter .handshaking
  match c.config.policy.judge head with
  | .error e => (c, .error e)
  | .ok request =>
    match c.reidentify request with
    | (c, some e) => (c, .error e)
    | (c, none) => (c, .ok request)

/-- Answers a request. -/
def conclude (c : Connection) : Except Error Upgrade.Request → Connection
  | .error e => c.reject e
  | .ok request => c.accept request

theorem handshake_eq (c : Connection) (head : Bytes) :
    c.handshake head = (c.identified head).1.conclude (c.identified head).2 := by
  unfold handshake identified
  cases hj : (c.enter .handshaking).config.policy.judge head with
  | error e => simp only [hj, conclude]
  | ok request =>
    rcases hr : (c.enter .handshaking).reidentify request with ⟨next, _ | e⟩ <;>
      simp only [hj, hr, conclude]

/-- The head of a request that a connection takes up with its next step. -/
def found? (c : Connection) : Option (Bytes × Codec) :=
  match c.phase, c.stopping, c.codec.stepHead with
  | .awaitingHead _, false, .done (.ok head) codec => some (head, codec)
  | _, _, _ => none

theorem found?_eq_some_iff {c : Connection} {head : Bytes} {codec : Codec} :
    c.found? = some (head, codec) ↔ (∃ deadline, c.phase = .awaitingHead deadline) ∧
      c.stopping = false ∧ c.codec.stepHead = .done (.ok head) codec := by
  unfold found?
  constructor
  · intro h
    split at h
    · rename_i deadline found codec' hp hs hr
      cases h
      exact ⟨⟨deadline, hp⟩, hs, hr⟩
    · cases h
  · rintro ⟨⟨deadline, hp⟩, hs, hr⟩
    rw [hp, hs, hr]

theorem step?_of_found? {c : Connection} {head : Bytes} {codec : Codec}
    (h : c.found? = some (head, codec)) : c.step? = some (handshake { c with codec } head) := by
  obtain ⟨⟨deadline, hp⟩, hs, hr⟩ := found?_eq_some_iff.mp h
  simp [step?, stepHead?, hp, hs, hr]

/-- The clients that permits were given back for. -/
def releasesOf (effects : List Effect) : List String :=
  effects.filterMap fun
    | .release ip => some ip
    | _ => none

/-- The clients between which permits were to be passed on, and what was decided. -/
def transfersOf (effects : List Effect) : List (String × String × Admission.Decision) :=
  effects.filterMap fun
    | .transfer source target decision => some (source, target, decision)
    | _ => none

end Connection

/-- A connection, the request that it has identified the client of but not answered yet, and the
permits that others hold. -/
structure Tenancy where
  connection : Connection
  pending : Option (Except Error Upgrade.Request)
  others : List Admission.Controller.Permit

namespace Tenancy

/-- What happens in a tenancy. -/
inductive Move
  | step
  | event (e : Connection.Event)
  | writes (failure : Option IoFailure)
  | flushes (failure : Option IoFailure)
  | clock (time : Nat)
  | others (action : Admission.Holding.Action)
deriving DecidableEq

/-- A connection that is accepted under one of the permits that are held. -/
def start (h : Admission.Holding) (place : Nat) (config : Config) (application : Application)
    (peer : Address) (now admissionTime : Nat) : Tenancy :=
  { connection := .new config application peer h.controller h.permits[place]? now admissionTime
    pending := none
    others := h.permits.eraseIdx place }

/-- The controller and all the permits that are held of it. -/
def holding (t : Tenancy) : Admission.Holding :=
  { controller := t.connection.admission
    permits := t.connection.permit.toList ++ t.others }

/-- The tenancy after a step of the connection, or after half the step that takes up the head of
the request. -/
def step (t : Tenancy) : Tenancy :=
  match t.pending with
  | some outcome => { t with connection := t.connection.conclude outcome, pending := none }
  | none =>
    match t.connection.found? with
    | some (head, codec) =>
      let (connection, outcome) := Connection.identified { t.connection with codec } head
      { t with connection, pending := some outcome }
    | none => { t with connection := t.connection.advance }

/-- The tenancy after one of the others has acted on a permit of theirs. -/
def act (t : Tenancy) (action : Admission.Holding.Action) : Tenancy :=
  let h := Admission.Holding.act ⟨t.connection.admission, t.others⟩ action
  { t with
    connection := { t.connection with admission := h.controller }
    others := h.permits }

/-- The tenancy after a move. -/
def move (t : Tenancy) : Move → Tenancy
  | .step => t.step
  | .event e => { t with connection := t.connection.apply e }
  | .writes failure => { t with connection := { t.connection with writeFailure := failure } }
  | .flushes failure => { t with connection := { t.connection with flushFailure := failure } }
  | .clock time => { t with connection := { t.connection with admissionTime := time } }
  | .others action => t.act action

/-- The tenancy after a run. -/
def after (t : Tenancy) (moves : List Move) : Tenancy :=
  moves.foldl move t

/-- Every step of the connection is one of the tenancy, or two. -/
theorem exists_after_step {c next : Connection} (h : c.step? = some next)
    (others : List Admission.Controller.Permit) :
    ∃ count, after ⟨c, none, others⟩ (List.replicate count .step) = ⟨next, none, others⟩ := by
  cases hf : c.found? with
  | some found =>
    obtain ⟨head, codec⟩ := found
    rw [Connection.step?_of_found? hf, Connection.handshake_eq] at h
    cases h
    refine ⟨2, ?_⟩
    simp [after, move, step, hf]
  | none =>
    refine ⟨1, ?_⟩
    simp [after, move, step, hf, Connection.advance, h]

end Tenancy
end WebSocket
