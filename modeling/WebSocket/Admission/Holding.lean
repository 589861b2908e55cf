import WebSocket.Admission.Controller

/-
A controller of admission together with the permits that are held of it.  A permit is taken when a
client is admitted; its holder may pass it on to another client and gives it back at the end.  The
holders act one at a time, in any order, and each of them at any reading of the clock.
-/
namespace WebSocket
namespace Admission

open Controller (Permit)

/-- A controller and the permits that are held of it. -/
structure Holding where
  controller : Controller
  permits : List Permit
deriving DecidableEq

namespace Holding

/-- A controller that is switched on, of which nobody holds a permit yet. -/
def start (limits : Limits) : Holding :=
  { controller := .new true limits
    permits := [] }

/-- What can be done with permits.  One that is held is named by its place among all of them. -/
inductive Action
  | acquire (ip : String) (now : Nat)
  | transfer (place : Nat) (target : String) (now : Nat)
  | giveBack (place : Nat)
deriving DecidableEq

/-- The controller and the permits after an action.  Nothing can be done with a permit that is not
held. -/
def act (h : Holding) : Action → Holding
  | .acquire ip now =>
    match h.controller.acquire ip now with
    | (.ok permit, controller) => { controller, permits := permit :: h.permits }
    | (.error _, controller) => { h with controller }
  | .transfer place target now =>
    match h.permits[place]? with
    | some permit =>
      let (_, permit, controller) := h.controller.transferPermit permit target now
      { controller, permits := h.permits.set place permit }
    | none => h
  | .giveBack place =>
    match h.permits[place]? with
    | some permit =>
      { controller := h.controller.giveBack permit, permits := h.permits.eraseIdx place }
    | none => h

/-- The controller and the permits after some actions. -/
def after (h : Holding) (actions : List Action) : Holding :=
  actions.foldl act h

/-- The clients that permits are held for, once for every permit. -/
def ips (h : Holding) : List String :=
  h.permits.map Permit.ip

end Holding
end Admission
end WebSocket
