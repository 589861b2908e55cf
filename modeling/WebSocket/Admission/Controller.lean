import WebSocket.Admission.Table
import WebSocket.Config

/-
The controller of admission: a table with the limits that it applies.  A controller that is
switched off admits everyone and records nothing.
-/
namespace WebSocket
namespace Admission

/-- A table of admission and its limits. -/
structure Controller where
  enabled : Bool
  limits : Limits
  table : Table
deriving DecidableEq

namespace Controller

/-- A controller without connections. -/
def new (enabled : Bool) (limits : Limits) : Controller :=
  { enabled, limits, table := .empty }

/-- The controller that a configuration asks for. -/
def ofConfig (c : Config) : Controller :=
  new c.security
    { maxConnections := c.maxConnections
      maxPerIp := c.maxConnectionsPerIp
      maxPerMinute := c.maxConnectionsPerMinute }

/-- Decides whether a client may open a connection now. -/
def attempt (c : Controller) (ip : String) (now : Nat) : Decision × Controller :=
  if c.enabled then
    let (decision, table) := c.table.attempt ip now c.table.globalCurrent c.limits
    (decision, { c with table })
  else (.admitted, c)

/-- Gives back a connection of a client. -/
def release (c : Controller) (ip : String) : Controller :=
  if c.enabled then { c with table := c.table.release ip } else c

/-- Decides whether a connection may pass from one client to another.  The new client is held to
its own limits; the old one keeps the connection when they refuse. -/
def transfer (c : Controller) (source target : String) (now : Nat) : Decision × Controller :=
  if !c.enabled || source == target then (.admitted, c)
  else
    match c.table.attempt target now (c.table.globalCurrent - 1) c.limits with
    | (.admitted, table) => (.admitted, { c with table := table.release source })
    | (refused, table) => (refused, { c with table })

/-! ## Permits -/

/-- A permit for one connection of a client: the text is the client it is held for. -/
structure Permit where
  ip : String
deriving DecidableEq

/-- A permit for a client, or the refusal. -/
def acquire (c : Controller) (ip : String) (now : Nat) : Except Error Permit × Controller :=
  match c.attempt ip now with
  | (.admitted, c) => (.ok ⟨ip⟩, c)
  | (refused, c) => (.error (.admissionRefused refused), c)

/-- Passes a permit on to another client, if that client may have it. -/
def transferPermit (c : Controller) (p : Permit) (target : String) (now : Nat) :
    Decision × Permit × Controller :=
  match c.transfer p.ip target now with
  | (.admitted, c) => (.admitted, ⟨target⟩, c)
  | (refused, c) => (refused, p, c)

/-- Gives a permit back. -/
def giveBack (c : Controller) (p : Permit) : Controller :=
  c.release p.ip

variable {c : Controller}

/-- A permit is passed on exactly when the transfer is admitted. -/
theorem passed_of_transferPermit {p passed : Permit} {target : String} {now : Nat}
    {decision : Decision} {next : Controller}
    (h : c.transferPermit p target now = (decision, passed, next)) :
    passed = if decision = .admitted then ⟨target⟩ else p := by
  unfold transferPermit at h
  rcases ht : c.transfer p.ip target now with ⟨verdict, controller⟩
  rw [ht] at h
  cases verdict <;> cases h <;> rfl

/-! ## A controller that is switched on -/

theorem attempt_of_enabled (h : c.enabled = true) (ip : String) (now : Nat) :
    c.attempt ip now =
      ((c.table.attempt ip now c.table.globalCurrent c.limits).1,
        { c with table := (c.table.attempt ip now c.table.globalCurrent c.limits).2 }) := by
  rw [attempt, if_pos h]

theorem release_of_enabled (h : c.enabled = true) (ip : String) :
    c.release ip = { c with table := c.table.release ip } := by
  rw [release, if_pos h]

/-- A client passes a connection on to itself without any trace. -/
theorem transfer_self (c : Controller) (ip : String) (now : Nat) :
    c.transfer ip ip now = (.admitted, c) := by
  simp [transfer]

/-- A transfer between two clients is an attempt of the target, which counts one connection less
in use, and if it is admitted the source gives its connection back. -/
theorem transfer_of_ne (h : c.enabled = true) {source target : String} (hne : source ≠ target)
    (now : Nat) :
    c.transfer source target now =
      let r := c.table.attempt target now (c.table.globalCurrent - 1) c.limits
      (r.1, { c with table := if r.1 = .admitted then r.2.release source else r.2 }) := by
  simp only [transfer, h, beq_eq_false_iff_ne.mpr hne, Bool.not_true, Bool.or_false,
    Bool.false_eq_true, if_false]
  generalize c.table.attempt target now (c.table.globalCurrent - 1) c.limits = r
  obtain ⟨decision, table⟩ := r
  cases decision <;> rfl

end Controller
end Admission
end WebSocket
