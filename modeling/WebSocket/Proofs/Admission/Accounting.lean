import Mathlib.Data.List.Perm.Basic
import WebSocket.Admission.Holding

/-
A table of admission is an exact account of the permits that are held.  `Accounts t held` says that
the table `t` shows, for every client, as many connections as the list `held` names it, and no
entry for a client that the list does not name.  An attempt that is admitted adds its client to the
account (`Accounts.attempt_admitted`), and giving a connection back strikes it off
(`Accounts.release`).  A transfer does the first and then the second, so between the two the
account holds one connection more than the limit on all of them may allow; this is why the limits
are kept apart from the account, in `Within`.

The main statement is that after any actions of the holders the table accounts for the permits,
within the limits.
-/
namespace WebSocket
namespace Admission

open Controller (Permit)

/-! ## Accounts -/

/-- What a table shows of the connections of a client that holds `n`. -/
def tally (n : Nat) : Option Nat :=
  if n = 0 then none else some n

/-- A table shows exactly the connections of the clients in a list, where each client stands once
for every connection. -/
structure Accounts (t : Table) (held : List String) : Prop where
  distinct : (Table.clients t.entries).Nodup
  current : ∀ ip, (Option.map Entry.current <| t.entry? ip) = tally (held.count ip)
  total : t.globalCurrent = held.length

namespace Accounts

variable {t : Table} {held : List String}

theorem empty : Accounts .empty [] :=
  ⟨List.nodup_nil, fun _ => rfl, rfl⟩

theorem perm {other : List String} (h : Accounts t held) (hp : held.Perm other) :
    Accounts t other := by
  refine ⟨h.distinct, fun ip => ?_, ?_⟩
  · rw [h.current, hp.count_eq]
  · rw [h.total, hp.length_eq]

/-- A client has no entry exactly when it holds nothing. -/
theorem entry?_eq_none_iff (h : Accounts t held) {ip : String} :
    t.entry? ip = none ↔ ip ∉ held := by
  have hc := h.current ip
  rw [← List.count_eq_zero, ← Option.map_eq_none_iff (f := Entry.current), hc, tally]
  by_cases hz : held.count ip = 0 <;> simp [hz]

theorem current_of_entry? (h : Accounts t held) {ip : String} {e : Entry}
    (he : t.entry? ip = some e) : e.current = held.count ip := by
  have hc := h.current ip
  rw [he, Option.map_some, tally] at hc
  split at hc
  · cases hc
  · exact Option.some.inj hc

/-- An attempt is judged by what the client holds. -/
theorem current_judged (h : Accounts t held) (ip : String) (now : Nat) :
    (t.judged ip now).current = held.count ip := by
  rw [Table.judged, Entry.current_roll]
  cases he : t.entry? ip with
  | some e => exact h.current_of_entry? he
  | none => exact (List.count_eq_zero.mpr (h.entry?_eq_none_iff.mp he)).symm

/-- Only a table without connections accounts for none. -/
theorem eq_empty (h : Accounts t []) : t = .empty := by
  obtain ⟨entries, globalCurrent⟩ := t
  have hg : globalCurrent = 0 := h.total
  have he : entries = [] := by
    cases entries with
    | nil => rfl
    | cons entry rest =>
      obtain ⟨known, e⟩ := entry
      have hn : Table.entry? ⟨(known, e) :: rest, globalCurrent⟩ known = none :=
        h.entry?_eq_none_iff.mpr List.not_mem_nil
      simp [Table.entry?, Table.lookup] at hn
  rw [he, hg]
  rfl

/-! ## Attempts -/

/-- An attempt that is refused leaves the account as it is. -/
theorem attempt_refused (h : Accounts t held) {ip : String} {now inUse : Nat} {limits : Limits}
    (hd : (t.attempt ip now inUse limits).1 ≠ .admitted) :
    Accounts (t.attempt ip now inUse limits).2 held := by
  rcases t.attempt_cases ip now inUse limits with ⟨_, ha⟩ | ⟨_, _, ha⟩ | ⟨_, _, ha⟩
  · rw [ha]
    exact h
  · rw [ha]
    by_cases hs : t.entry? ip |>.isSome
    · -- the entry may begin a new window, which leaves its connections as they are
      simp only [hs, if_true]
      refine ⟨Table.nodup_assign h.distinct, fun other => ?_, h.total⟩
      rw [Table.entry?_put]
      by_cases ho : ip = other
      · subst ho
        obtain ⟨e, he⟩ := Option.isSome_iff_exists.mp hs
        rw [if_pos rfl, Option.map_some, h.current_judged, ← h.current, he, Option.map_some,
          h.current_of_entry? he]
      · rw [if_neg ho]
        exact h.current other
    · simp only [hs]
      exact h
  · rw [ha] at hd
    exact absurd rfl hd

/-- An attempt that is admitted adds its client to the account. -/
theorem attempt_admitted (h : Accounts t held) {ip : String} {now inUse : Nat} {limits : Limits}
    (hd : (t.attempt ip now inUse limits).1 = .admitted) :
    Accounts (t.attempt ip now inUse limits).2 (ip :: held) := by
  rcases t.attempt_cases ip now inUse limits with ⟨_, ha⟩ | ⟨_, hn, ha⟩ | ⟨_, _, ha⟩
  · rw [ha] at hd
    cases hd
  · rw [ha] at hd
    exact absurd hd hn
  · rw [ha]
    refine ⟨Table.nodup_assign h.distinct, fun other => ?_, ?_⟩
    · show (Option.map Entry.current <| Table.entry? (t.put ip _) other) = _
      rw [Table.entry?_put]
      by_cases ho : ip = other
      · subst ho
        rw [if_pos rfl, Option.map_some, Entry.current_count, h.current_judged,
          List.count_cons_self, tally, if_neg (Nat.succ_ne_zero _)]
      · rw [if_neg ho, List.count_cons_of_ne ho]
        exact h.current other
    · show t.globalCurrent + 1 = _
      rw [h.total, List.length_cons]

/-- A client is admitted only below its own limit, and below the limit on all connections. -/
theorem lt_of_admitted (h : Accounts t held) {ip : String} {now inUse : Nat} {limits : Limits}
    (hd : (t.attempt ip now inUse limits).1 = .admitted) :
    held.count ip < limits.maxPerIp ∧ inUse < limits.maxConnections := by
  rcases t.attempt_cases ip now inUse limits with ⟨_, ha⟩ | ⟨_, hn, ha⟩ | ⟨hg, hj, _⟩
  · rw [ha] at hd
    cases hd
  · rw [ha] at hd
    exact absurd hd hn
  · rw [Entry.decide_eq_admitted_iff, h.current_judged] at hj
    exact ⟨hj.1, hg⟩

/-! ## Returns -/

/-- Giving a connection back strikes it off the account. -/
theorem release {ip : String} (h : Accounts t (ip :: held)) : Accounts (t.release ip) held := by
  have hm : t.entry? ip ≠ none := fun hn => h.entry?_eq_none_iff.mp hn List.mem_cons_self
  obtain ⟨e, he⟩ := Option.ne_none_iff_exists'.mp hm
  have hc : e.current = held.count ip + 1 := by
    rw [h.current_of_entry? he, List.count_cons_self]
  have hrest : ∀ other, ip ≠ other →
      (Option.map Entry.current <| t.entry? other) = tally (held.count other) := by
    intro other ho
    rw [h.current, List.count_cons_of_ne ho]
  have htotal : t.globalCurrent - 1 = held.length := by
    rw [h.total, List.length_cons, Nat.add_sub_cancel]
  simp only [Table.release, he, hc, Nat.add_sub_cancel]
  by_cases hz : held.count ip = 0
  · -- the last connection takes the entry with it
    rw [if_pos hz]
    refine ⟨Table.nodup_discard h.distinct, fun other => ?_, htotal⟩
    show (Table.lookup other (Table.discard ip t.entries)).map Entry.current = _
    rw [Table.lookup_discard h.distinct]
    by_cases ho : ip = other
    · subst ho
      rw [if_pos rfl, tally, if_pos hz, Option.map_none]
    · rw [if_neg ho]
      exact hrest other ho
  · rw [if_neg hz]
    refine ⟨Table.nodup_assign h.distinct, fun other => ?_, htotal⟩
    show (Table.lookup other (Table.assign ip _ t.entries)).map Entry.current = _
    rw [Table.lookup_assign]
    by_cases ho : ip = other
    · subst ho
      rw [if_pos rfl, tally, if_neg hz, Option.map_some]
    · rw [if_neg ho]
      exact hrest other ho

end Accounts

/-! ## Permits within the limits -/

/-- The clients in a list are within the limits on connections. -/
structure Within (limits : Limits) (held : List String) : Prop where
  perIp : ∀ ip, held.count ip ≤ limits.maxPerIp
  total : held.length ≤ limits.maxConnections

theorem Within.perm {limits : Limits} {held other : List String} (h : Within limits held)
    (hp : held.Perm other) : Within limits other := by
  refine ⟨fun ip => ?_, ?_⟩
  · rw [← hp.count_eq]
    exact h.perIp ip
  · rw [← hp.length_eq]
    exact h.total

theorem Within.tail {limits : Limits} {ip : String} {held : List String}
    (h : Within limits (ip :: held)) : Within limits held := by
  refine ⟨fun other => ?_, ?_⟩
  · exact Nat.le_trans List.count_le_count_cons (h.perIp other)
  · exact Nat.le_of_succ_le h.total

theorem Within.cons {limits : Limits} {ip : String} {held : List String} (h : Within limits held)
    (hc : held.count ip < limits.maxPerIp) (hl : held.length < limits.maxConnections) :
    Within limits (ip :: held) := by
  refine ⟨fun other => ?_, hl⟩
  rw [List.count_cons]
  by_cases ho : ip = other
  · subst ho
    rw [beq_self_eq_true, if_pos rfl]
    exact hc
  · simpa [ho] using h.perIp other

namespace Holding

/-- A controller that is switched on keeps account of the permits held of it, within its limits. -/
structure Consistent (limits : Limits) (h : Holding) : Prop where
  enabled : h.controller.enabled = true
  limits_eq : h.controller.limits = limits
  accounts : Accounts h.controller.table h.ips
  within : Within limits h.ips

variable {limits : Limits} {h : Holding}

theorem consistent_start (limits : Limits) : Consistent limits (start limits) where
  enabled := rfl
  limits_eq := rfl
  accounts := .empty
  within := ⟨fun _ => Nat.zero_le _, Nat.zero_le _⟩

/-- A permit that is put back where it was changes nothing. -/
theorem set_permit {place : Nat} {permit : Permit} (hp : h.permits[place]? = some permit) :
    h.permits.set place permit = h.permits := by
  obtain ⟨hlt, rfl⟩ := List.getElem?_eq_some_iff.mp hp
  exact List.set_getElem_self hlt

/-- The permits, when the one at a place is looked at first. -/
theorem permits_perm {place : Nat} {permit : Permit} (hp : h.permits[place]? = some permit) :
    h.permits.Perm (permit :: h.permits.eraseIdx place) := by
  obtain ⟨hlt, rfl⟩ := List.getElem?_eq_some_iff.mp hp
  exact (List.getElem_cons_eraseIdx_perm hlt).symm

theorem ips_perm {place : Nat} {permit : Permit} (hp : h.permits[place]? = some permit) :
    h.ips.Perm (permit.ip :: (h.permits.eraseIdx place).map Permit.ip) :=
  (permits_perm hp).map Permit.ip

/-- The clients of the permits, after the one at a place is exchanged. -/
theorem ips_set_perm {place : Nat} {permit : Permit} (hp : h.permits[place]? = some permit)
    (other : Permit) :
    ((h.permits.set place other).map Permit.ip).Perm
      (other.ip :: (h.permits.eraseIdx place).map Permit.ip) := by
  obtain ⟨hlt, -⟩ := List.getElem?_eq_some_iff.mp hp
  exact (List.set_perm_cons_eraseIdx hlt other).map Permit.ip

/-! ## Actions -/

theorem Consistent.acquire (hc : Consistent limits h) (ip : String) (now : Nat) :
    Consistent limits (h.act (.acquire ip now)) := by
  have ha := Controller.attempt_of_enabled hc.enabled ip now
  by_cases hd : (h.controller.table.attempt ip now h.controller.table.globalCurrent
      h.controller.limits).1 = .admitted
  · have hlt := hc.accounts.lt_of_admitted hd
    rw [hc.limits_eq, hc.accounts.total] at hlt
    simp only [act, Controller.acquire, ha, hd]
    exact ⟨hc.enabled, hc.limits_eq, hc.accounts.attempt_admitted hd,
      hc.within.cons hlt.1 hlt.2⟩
  · simp only [act, Controller.acquire, ha]
    exact ⟨hc.enabled, hc.limits_eq, hc.accounts.attempt_refused hd, hc.within⟩

theorem Consistent.giveBack (hc : Consistent limits h) (place : Nat) :
    Consistent limits (h.act (.giveBack place)) := by
  simp only [act]
  split
  · rename_i permit hp
    have hperm := ips_perm hp
    rw [Controller.giveBack, Controller.release_of_enabled hc.enabled]
    exact ⟨hc.enabled, hc.limits_eq, (hc.accounts.perm hperm).release,
      (hc.within.perm hperm).tail⟩
  · exact hc

theorem Consistent.transfer (hc : Consistent limits h) (place : Nat) (target : String)
    (now : Nat) : Consistent limits (h.act (.transfer place target now)) := by
  simp only [act]
  split
  · rename_i permit hp
    have hperm := ips_perm hp
    by_cases hne : permit.ip = target
    · -- the permit stays with its client
      subst hne
      simp only [Controller.transferPermit, Controller.transfer_self]
      rw [set_permit hp]
      exact hc
    · have ht := Controller.transfer_of_ne hc.enabled hne now
      simp only [Controller.transferPermit, ht]
      by_cases hd : (h.controller.table.attempt target now
          (h.controller.table.globalCurrent - 1) h.controller.limits).1 = .admitted
      · -- for a moment both clients hold the connection
        have hlt := hc.accounts.lt_of_admitted hd
        have hswap := (hperm.cons target).trans (List.Perm.swap ..)
        have hset := ips_set_perm hp ⟨target⟩
        simp only [hd, if_true]
        refine ⟨hc.enabled, hc.limits_eq, ?_, ?_⟩
        · exact (((hc.accounts.attempt_admitted hd).perm hswap).release).perm hset.symm
        · have hw := hc.within.perm hperm
          have hcount : ((h.permits.eraseIdx place).map Permit.ip).count target <
              limits.maxPerIp := by
            rw [hperm.count_eq, List.count_cons_of_ne hne, hc.limits_eq] at hlt
            exact hlt.1
          exact (hw.tail.cons hcount hw.total).perm hset.symm
      · simp only [hd, if_false, set_permit hp]
        exact ⟨hc.enabled, hc.limits_eq, hc.accounts.attempt_refused hd, hc.within⟩
  · exact hc

theorem Consistent.act (hc : Consistent limits h) (a : Action) : Consistent limits (h.act a) := by
  cases a with
  | acquire ip now => exact hc.acquire ip now
  | transfer place target now => exact hc.transfer place target now
  | giveBack place => exact hc.giveBack place

/-- Whatever the holders do, the table accounts for the permits. -/
theorem Consistent.after (hc : Consistent limits h) (actions : List Action) :
    Consistent limits (h.after actions) := by
  induction actions generalizing h with
  | nil => exact hc
  | cons a actions ih => exact ih (hc.act a)

/-! ## Giving everything back -/

/-- The permits given back in some order, one after the other, leave the account of the rest. -/
theorem accounts_foldl_giveBack {order : List Permit} {rest : List String} {c : Controller}
    (he : c.enabled = true) (h : Accounts c.table (order.map Permit.ip ++ rest)) :
    Accounts (order.foldl Controller.giveBack c).table rest := by
  induction order generalizing c with
  | nil => exact h
  | cons permit order ih =>
    rw [List.foldl_cons, Controller.giveBack, Controller.release_of_enabled he]
    exact ih he h.release

/-- After any actions of the holders of permits, in any order and at any times, a client has an
entry exactly when a permit is held for it; the entry shows how many, which is within the limit on
the client; and the number of all connections is that of all permits, which is within the limit on
all.  Giving all permits back, in whatever order, leaves the table empty. -/
theorem accounted_after (limits : Limits) (actions : List Action) :
    let h := (start limits).after actions
    (∀ ip, h.controller.table.entry? ip = none ↔ ∀ permit ∈ h.permits, permit.ip ≠ ip) ∧
      (∀ ip e, h.controller.table.entry? ip = some e →
        e.current = h.permits.countP (·.ip = ip) ∧ e.current ≤ limits.maxPerIp) ∧
      h.controller.table.globalCurrent = h.permits.length ∧
      h.controller.table.globalCurrent ≤ limits.maxConnections ∧
      ∀ order : List Permit, order.Perm h.permits →
        (order.foldl Controller.giveBack h.controller).table = .empty := by
  intro h
  have hc : Consistent limits h := (consistent_start limits).after actions
  have htotal : h.controller.table.globalCurrent = h.permits.length := by
    rw [hc.accounts.total, ips, List.length_map]
  refine ⟨fun ip => ?_, fun ip e he => ?_, htotal, ?_, fun order ho => ?_⟩
  · rw [hc.accounts.entry?_eq_none_iff, ips, List.mem_map]
    exact ⟨fun hn permit hp heq => hn ⟨permit, hp, heq⟩,
      fun hn ⟨permit, hp, heq⟩ => hn permit hp heq⟩
  · have hcount := hc.accounts.current_of_entry? he
    refine ⟨?_, hcount ▸ hc.within.perIp ip⟩
    rw [hcount, ips, List.count, List.countP_map]
    exact List.countP_congr fun permit _ => by simp
  · have hl := hc.within.total
    rw [ips, List.length_map] at hl
    exact htotal ▸ hl
  · have hall : Accounts h.controller.table (order.map Permit.ip ++ []) := by
      rw [List.append_nil]
      exact hc.accounts.perm (ho.symm.map Permit.ip)
    exact (accounts_foldl_giveBack hc.enabled hall).eq_empty

end Holding
end Admission
end WebSocket
