import WebSocket.Admission.History

/-
One client, apart from the others.  Of all that is asked of a controller only some touches a
client: it asks for a connection, or it gives one back.  A connection may come from another client
and may go to another one; which one that is makes no difference.

`Entry.alone` tells from these touches, and from nothing else, how a client is answered and what is
recorded of it.  It leaves out the limit on all connections, which is the one thing that the clients
have in common.
-/
namespace WebSocket
namespace Admission

/-- What touches a client. -/
inductive Touch
  /-- It asks for a connection, for a new one or for that of another client. -/
  | ask (now : Nat)
  /-- It gives a connection back, or has passed it on. -/
  | giveBack
deriving DecidableEq

namespace Entry

/-- Answers a client that asks for a connection by the limits on the client.  A refused newcomer
gets no entry. -/
def ask (limits : Limits) (entry : Option Entry) (now : Nat) : Decision × Option Entry :=
  let e := (entry.getD (fresh now)).roll now
  let decision := e.decide limits
  (decision, if decision = .admitted then some (e.count now) else entry.map fun _ => e)

/-- The entry of a client with one connection less. -/
def giveBack : Option Entry → Option Entry
  | none => none
  | some e => if e.current ≤ 1 then none else some { e with current := e.current - 1 }

/-- The answers to what a client asks for, and its entry in the end. -/
def alone (limits : Limits) (entry : Option Entry) : List Touch → List Decision × Option Entry
  | [] => ([], entry)
  | .ask now :: rest =>
    let (decision, next) := ask limits entry now
    let (decisions, last) := alone limits next rest
    (decision :: decisions, last)
  | .giveBack :: rest => alone limits (giveBack entry) rest

variable {limits : Limits} {entry : Option Entry} {now : Nat}

theorem ask_of_admitted
    (h : ((entry.getD (fresh now)).roll now).decide limits = .admitted) :
    ask limits entry now = (.admitted, some (((entry.getD (fresh now)).roll now).count now)) :=
  Prod.ext h (if_pos h)

theorem ask_of_refused (h : ((entry.getD (fresh now)).roll now).decide limits ≠ .admitted) :
    ask limits entry now = (((entry.getD (fresh now)).roll now).decide limits,
      entry.map fun _ => (entry.getD (fresh now)).roll now) :=
  Prod.ext rfl (if_neg h)

end Entry

namespace Controller

/-- How an action touches a client.  A transfer that is refused does not touch its source. -/
def touch? (c : Controller) (ip : String) : Action → Option Touch
  | .attempt client now => if client = ip then some (.ask now) else none
  | .release client _ => if client = ip then some .giveBack else none
  | .transfer source target now =>
    if source = target then none
    else if target = ip then some (.ask now)
    else if source = ip ∧ (c.transfer source target now).1 = .admitted then some .giveBack
    else none

/-- The answer to an action by which a client asks for a connection. -/
def answer? (c : Controller) (ip : String) : Action → Option Decision
  | .attempt client now => if client = ip then some (c.attempt client now).1 else none
  | .release _ _ => none
  | .transfer source target now =>
    if source ≠ target ∧ target = ip then some (c.transfer source target now).1 else none

/-- How the actions of a history touch a client, in their order. -/
def touches (c : Controller) (ip : String) : List Action → List Touch
  | [] => []
  | a :: rest => (c.touch? ip a).toList ++ touches (c.act a) ip rest

/-- How a client is answered in the course of a history. -/
def answers (c : Controller) (ip : String) : List Action → List Decision
  | [] => []
  | a :: rest => (c.answer? ip a).toList ++ answers (c.act a) ip rest

variable {c : Controller} {ip : String}

/-- A client opens a connection when it asks for one and is admitted. -/
theorem opened?_eq_some_iff {a : Action} :
    c.opened? a = some ip ↔ c.answer? ip a = some .admitted := by
  cases a with
  | attempt client now =>
    simp only [opened?, answer?, Option.ite_none_right_eq_some, Option.some.injEq]
    exact and_comm
  | release client now => simp only [opened?, answer?, reduceCtorEq]
  | transfer source target now =>
    simp only [opened?, answer?, Option.ite_none_right_eq_some, Option.some.injEq]
    exact and_right_comm

theorem now_of_touch? {a : Action} {now : Nat} (h : c.touch? ip a = some (.ask now)) :
    now = a.now := by
  cases a with
  | attempt client asked =>
    rw [touch?, Option.ite_none_right_eq_some] at h
    cases h.2
    rfl
  | release client asked =>
    rw [touch?, Option.ite_none_right_eq_some] at h
    cases h.2
  | transfer source target asked =>
    rw [touch?, Option.ite_none_left_eq_some] at h
    obtain ⟨-, h⟩ := h
    split at h
    · cases h
      rfl
    · rw [Option.ite_none_right_eq_some] at h
      cases h.2

end Controller
end Admission
end WebSocket
