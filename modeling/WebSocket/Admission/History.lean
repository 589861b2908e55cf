import WebSocket.Admission.Controller

/-
Histories of a controller of admission.  Here clients are admitted, passed on and given back without
permits, by anybody and in any order, so that a connection may be given back that was never
admitted.  Of a history it is told when a client opened connections, when it gave back its last one,
and when the windows began that its connections were counted in (`Controller.admissions`,
`Controller.departures`, `Controller.beginnings`).
-/
namespace WebSocket
namespace Admission
namespace Controller

/-- What is asked of a controller, and at which reading of the clock.  To give a connection back no
clock is needed. -/
inductive Action
  | attempt (ip : String) (now : Nat)
  | release (ip : String) (now : Nat)
  | transfer (source target : String) (now : Nat)
deriving DecidableEq

/-- The reading of the clock at which something is asked. -/
def Action.now : Action → Nat
  | .attempt _ now => now
  | .release _ now => now
  | .transfer _ _ now => now

/-- The controller after an action. -/
def act (c : Controller) : Action → Controller
  | .attempt ip now => (c.attempt ip now).2
  | .release ip _ => c.release ip
  | .transfer source target now => (c.transfer source target now).2

/-- The controller after some actions. -/
def after (c : Controller) (actions : List Action) : Controller :=
  actions.foldl act c

/-- The client that an action opens a connection for.  What a client passes on to itself is not
opened. -/
def opened? (c : Controller) : Action → Option String
  | .attempt ip now => if (c.attempt ip now).1 = .admitted then some ip else none
  | .release _ _ => none
  | .transfer source target now =>
    if source ≠ target ∧ (c.transfer source target now).1 = .admitted then some target else none

/-- Whether an action takes the last connection of a client. -/
def clears (c : Controller) (ip : String) (a : Action) : Bool :=
  (Option.isSome <| c.table.entry? ip) && (Option.isNone <| (c.act a).table.entry? ip)

/-- Whether an action begins a window of a client: it makes the entry of the client, or resets the
window in it. -/
def begins (c : Controller) (ip : String) (a : Action) : Bool :=
  (c.act a).table.entry? ip |>.any fun after =>
    c.table.entry? ip |>.all fun before => before.windowStart ≠ after.windowStart

/-- The table that an action gives a connection back to, and the client that it gives it back for.
A transfer does so once the target has been admitted. -/
def returning? (c : Controller) : Action → Option (Table × String)
  | .attempt _ _ => none
  | .release ip _ => if c.enabled then some (c.table, ip) else none
  | .transfer source target now =>
    if c.enabled ∧ source ≠ target then
      let (decision, table) := c.table.attempt target now (c.table.globalCurrent - 1) c.limits
      if decision = .admitted then some (table, source) else none
    else none

/-- The readings of the clock at those actions of a history that are marked. -/
def moments (marked : Controller → Action → Bool) (c : Controller) : List Action → List Nat
  | [] => []
  | a :: rest =>
    if marked c a then a.now :: moments marked (c.act a) rest else moments marked (c.act a) rest

/-- When a client opened connections. -/
def admissions (c : Controller) (ip : String) (actions : List Action) : List Nat :=
  c.moments (fun c a => c.opened? a = some ip) actions

/-- When a client gave back its last connection. -/
def departures (c : Controller) (ip : String) (actions : List Action) : List Nat :=
  c.moments (fun c a => c.clears ip a) actions

/-- When the windows of a client began. -/
def beginnings (c : Controller) (ip : String) (actions : List Action) : List Nat :=
  c.moments (fun c a => c.begins ip a) actions

variable {c : Controller} {marked : Controller → Action → Bool}

/-- What an action gives back is given back to the table as it is by then. -/
theorem table_act_of_returning? {a : Action} {t : Table} {ip : String}
    (h : c.returning? a = some (t, ip)) : (c.act a).table = t.release ip := by
  cases a with
  | attempt ip now => cases h
  | release ip' now =>
    by_cases he : c.enabled = true
    · simp only [returning?, he, if_true, Option.some.injEq, Prod.mk.injEq] at h
      obtain ⟨rfl, rfl⟩ := h
      simp only [act, release_of_enabled he]
    · simp [returning?, he] at h
  | transfer source target now =>
    by_cases hgo : c.enabled = true ∧ source ≠ target
    · simp only [returning?, if_pos hgo] at h
      simp only [act, transfer_of_ne hgo.1 hgo.2]
      split at h
      · rename_i hadmitted
        cases h
        rw [if_pos hadmitted]
      · cases h
    · simp only [returning?, if_neg hgo] at h
      cases h

theorem after_append (c : Controller) (earlier later : List Action) :
    c.after (earlier ++ later) = (c.after earlier).after later :=
  List.foldl_append

theorem moments_append (earlier later : List Action) :
    c.moments marked (earlier ++ later) =
      c.moments marked earlier ++ (c.after earlier).moments marked later := by
  induction earlier generalizing c with
  | nil => rfl
  | cons a earlier ih =>
    rw [List.cons_append, moments, moments, ih]
    by_cases hm : marked c a = true
    · rw [if_pos hm, if_pos hm]
      rfl
    · rw [if_neg hm, if_neg hm]
      rfl

theorem moments_concat (marked : Controller → Action → Bool) (c : Controller)
    (actions : List Action) (a : Action) :
    c.moments marked (actions ++ [a]) =
      c.moments marked actions ++ if marked (c.after actions) a then [a.now] else [] := by
  rw [moments_append, moments, moments]

/-- A moment is that of an action. -/
theorem exists_of_mem_moments {actions : List Action} {now : Nat}
    (h : now ∈ c.moments marked actions) : ∃ a ∈ actions, a.now = now := by
  induction actions generalizing c with
  | nil => cases h
  | cons a actions ih =>
    have hrest : now ∈ (c.act a).moments marked actions → ∃ b ∈ a :: actions, b.now = now := by
      intro hlater
      obtain ⟨b, hb, hnow⟩ := ih hlater
      exact ⟨b, List.mem_cons_of_mem a hb, hnow⟩
    rw [moments] at h
    split at h
    · rcases List.mem_cons.mp h with rfl | hlater
      · exact ⟨a, List.mem_cons_self, rfl⟩
      · exact hrest hlater
    · exact hrest h

end Controller
end Admission
end WebSocket
