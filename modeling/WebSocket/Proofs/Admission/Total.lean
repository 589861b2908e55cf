import WebSocket.Proofs.Admission.Entries

/-
The number of all connections under the raw calls.  An attempt is admitted below the limit and
counts one more.  A transfer is tested against one connection less, as its source is to give one
back; a source that has none gives none back, and then one more is counted (`Controller.conjures`).
That takes a table at its limit past it, but by one connection only: there nobody is admitted any
more (`Regular.globalCurrent_act_cases`).
-/
namespace WebSocket
namespace Admission

namespace Table

variable {t : Table} {ip : String}

/-- An attempt counts a connection exactly when it is admitted. -/
theorem globalCurrent_attempt (t : Table) (ip : String) (now inUse : Nat) (limits : Limits) :
    (t.attempt ip now inUse limits).2.globalCurrent =
      if (t.attempt ip now inUse limits).1 = .admitted then t.globalCurrent + 1
      else t.globalCurrent := by
  rcases t.attempt_cases ip now inUse limits with ⟨-, ha⟩ | ⟨-, hn, ha⟩ | ⟨-, -, ha⟩ <;> rw [ha]
  · rfl
  · rw [if_neg hn]
    split <;> rfl
  · rfl

theorem globalCurrent_release {e : Entry} (h : t.entry? ip = some e) :
    (t.release ip).globalCurrent = t.globalCurrent - 1 := by
  rw [release_of_some h]

end Table

namespace Controller

/-- Whether an action passes on a connection that its source does not have.  The target is admitted
and nothing is given back. -/
def conjures (c : Controller) : Action → Bool
  | .attempt _ _ => false
  | .release _ _ => false
  | .transfer source target now =>
    source ≠ target && (Option.isNone <| c.table.entry? source) &&
      (c.transfer source target now).1 = .admitted

variable {limits : Limits} {c : Controller}

/-- A transfer leaves the number of all connections as it is, unless the source has none. -/
theorem Regular.globalCurrent_transfer (h : Regular limits c) (source target : String)
    (now : Nat) :
    (c.transfer source target now).2.table.globalCurrent =
      c.table.globalCurrent + (c.conjures (.transfer source target now)).toNat := by
  by_cases hself : source = target
  · subst hself
    simp [conjures, transfer_self]
  · have hcount := c.table.globalCurrent_attempt target now (c.table.globalCurrent - 1) c.limits
    have hsource : Table.entry?
        (c.table.attempt target now (c.table.globalCurrent - 1) c.limits).2 source =
          c.table.entry? source := Table.entry?_attempt_of_ne (Ne.symm hself) ..
    simp only [conjures, transfer_of_ne h.enabled hself]
    by_cases hd : (c.table.attempt target now (c.table.globalCurrent - 1) c.limits).1 = .admitted
    · rw [if_pos hd] at hcount ⊢
      cases he : c.table.entry? source with
      | none =>
        rw [Table.release_of_none (hsource.trans he), hcount]
        simp [hself, hd]
      | some e =>
        rw [Table.globalCurrent_release (hsource.trans he), hcount]
        simp
    · rw [if_neg hd] at hcount ⊢
      rw [hcount]
      simp [hd]

/-- What an action can make of the number of all connections.  It grows by one at most: below the
limit, or at the limit by a transfer from a client that has no connection. -/
theorem Regular.globalCurrent_act_cases (h : Regular limits c) (a : Action) :
    (c.act a).table.globalCurrent ≤ c.table.globalCurrent ∨
      (c.table.globalCurrent < limits.maxConnections ∧
        (c.act a).table.globalCurrent = c.table.globalCurrent + 1) ∨
      (c.table.globalCurrent ≤ limits.maxConnections ∧ c.conjures a = true ∧
        (c.act a).table.globalCurrent = c.table.globalCurrent + 1) := by
  obtain ⟨held, haccounts⟩ := h.accounts
  cases a with
  | attempt ip now =>
    have hcount := c.table.globalCurrent_attempt ip now c.table.globalCurrent c.limits
    simp only [Controller.act, attempt_of_enabled h.enabled]
    by_cases hd : (c.table.attempt ip now c.table.globalCurrent c.limits).1 = .admitted
    · rw [if_pos hd] at hcount
      exact .inr (.inl ⟨h.limits_eq ▸ (haccounts.lt_of_admitted hd).2, hcount⟩)
    · rw [if_neg hd] at hcount
      exact .inl (Nat.le_of_eq hcount)
  | release ip now =>
    simp only [Controller.act, release_of_enabled h.enabled]
    cases he : c.table.entry? ip with
    | none =>
      rw [Table.release_of_none he]
      exact .inl (Nat.le_refl _)
    | some e =>
      rw [Table.globalCurrent_release he]
      exact .inl (Nat.sub_le _ _)
  | transfer source target now =>
    have hcount := h.globalCurrent_transfer source target now
    simp only [Controller.act]
    cases hconjures : c.conjures (.transfer source target now) with
    | false =>
      rw [hconjures] at hcount
      exact .inl (Nat.le_of_eq hcount)
    | true =>
      rw [hconjures] at hcount
      refine .inr (.inr ⟨?_, rfl, hcount⟩)
      -- the test left out the connection that the source was to give back
      simp only [conjures, Bool.and_eq_true, decide_eq_true_eq] at hconjures
      obtain ⟨⟨hself, -⟩, hd⟩ := hconjures
      simp only [transfer_of_ne h.enabled hself] at hd
      have hlt := h.limits_eq ▸ (haccounts.lt_of_admitted hd).2
      omega

/-! ## Histories -/

theorem Regular.globalCurrent_after_le (h : Regular limits c)
    (hle : c.table.globalCurrent ≤ limits.maxConnections + 1) (actions : List Action) :
    (c.after actions).table.globalCurrent ≤ limits.maxConnections + 1 := by
  induction actions generalizing c with
  | nil => exact hle
  | cons a actions ih =>
    refine ih (h.act a) ?_
    rcases h.globalCurrent_act_cases a with hless | ⟨hlt, heq⟩ | ⟨hlt, -, heq⟩ <;> omega

/-- As long as no connection is passed on by a client that has none, the limit is kept. -/
theorem Regular.globalCurrent_after_le_of_moments (h : Regular limits c)
    (hle : c.table.globalCurrent ≤ limits.maxConnections) {actions : List Action}
    (hnone : c.moments conjures actions = []) :
    (c.after actions).table.globalCurrent ≤ limits.maxConnections := by
  induction actions generalizing c with
  | nil => exact hle
  | cons a actions ih =>
    rw [moments] at hnone
    by_cases hconjures : c.conjures a = true
    · rw [if_pos hconjures] at hnone
      cases hnone
    · rw [if_neg hconjures] at hnone
      refine ih (h.act a) ?_ hnone
      -- the third case is the one that is excluded here
      rcases h.globalCurrent_act_cases a with hless | ⟨hlt, heq⟩ | ⟨-, hyes, -⟩
      · omega
      · omega
      · exact absurd hyes hconjures

/-- Whatever is asked, the connections are never more than one above the limit on all of them, and
they are within it unless a connection was passed on from a client that had none.  A transfer
counts one connection more when it is such, and leaves their number as it is when it is not. -/
theorem globalCurrent_after (limits : Limits) (actions : List Action) :
    let c := (new true limits).after actions
    c.table.globalCurrent ≤ limits.maxConnections + 1 ∧
      (limits.maxConnections < c.table.globalCurrent →
        (new true limits).moments conjures actions ≠ []) ∧
      ∀ source target now, (c.transfer source target now).2.table.globalCurrent =
        c.table.globalCurrent + (c.conjures (.transfer source target now)).toNat := by
  intro c
  have hstart : Regular limits (new true limits) := regular_new limits
  refine ⟨hstart.globalCurrent_after_le (Nat.zero_le _) actions, fun hover hnone => ?_,
    (hstart.after actions).globalCurrent_transfer⟩
  exact absurd (hstart.globalCurrent_after_le_of_moments (Nat.zero_le _) hnone)
    (Nat.not_le_of_lt hover)

/-- Neither is the limit on all connections kept, nor does a transfer leave their number.  One
connection is allowed and one is there when a client that has none passes one on. -/
theorem not_forall_globalCurrent_le_maxConnections :
    ¬ ∀ (limits : Limits) (actions : List Action),
      let c := (new true limits).after actions
      c.table.globalCurrent ≤ limits.maxConnections ∧
        ∀ source target now,
          (c.transfer source target now).2.table.globalCurrent = c.table.globalCurrent := by
  intro h
  have htwo := (h ⟨1, 5, 10⟩ [.attempt "a" 0, .transfer "ghost" "b" 0]).1
  revert htwo
  decide

end Controller
end Admission
end WebSocket
