import WebSocket.Admission.Client
import WebSocket.Proofs.Admission.Accounting

/-
What becomes of the entry of one client.  An action makes of it what `Entry.ask` or `Entry.giveBack`
does, or leaves it, and how it touches the client tells which (`Touched`,
`Controller.Regular.touched`).  So an action on the controller, whoever it is for, leaves the entry,
begins a new window in it, counts a connection more or less, or removes it; there is nothing else
(`Entry.Fate`, `Controller.Regular.fate`).  Whatever every fate preserves holds of all entries after
every history.

The table as a whole accounts for a list of connections here as well, although nobody holds permits
for them: a connection that is given back is struck off the list if it stands on it.  So the number
of all connections is the sum over the entries, and no subtraction falls short
(`Controller.consistent_after`).
-/
namespace WebSocket
namespace Admission

/-! ## One entry -/

namespace Entry

/-- An entry that shows a connection at least, and is within the limits on its client. -/
structure InBounds (limits : Limits) (e : Entry) : Prop where
  held : 1 ≤ e.current
  perIp : e.current ≤ limits.maxPerIp
  perMinute : e.minuteCount ≤ limits.maxPerMinute

/-- What an action can make of the entry of a client, and whether it opens a connection for the
client by that. -/
inductive Fate (limits : Limits) (now : Nat) : Option Entry → (opened : Bool) → Option Entry → Prop
  | kept (entry : Option Entry) : Fate limits now entry false entry
  | rolled (e : Entry) : Fate limits now (some e) false (some (e.roll now))
  | counted (entry : Option Entry)
    (h : ((entry.getD (.fresh now)).roll now).decide limits = .admitted) :
    Fate limits now entry true (some (((entry.getD (.fresh now)).roll now).count now))
  | lessened (e : Entry) (h : 1 < e.current) :
    Fate limits now (some e) false (some { e with current := e.current - 1 })
  | cleared (e : Entry) (h : e.current ≤ 1) : Fate limits now (some e) false none

/-- An entry that begins a new window has counted nothing in it. -/
theorem minuteCount_roll_le (e : Entry) (now : Nat) : (e.roll now).minuteCount ≤ e.minuteCount := by
  unfold roll
  split
  · exact Nat.zero_le _
  · exact Nat.le_refl _

theorem Fate.inBounds {limits : Limits} {now : Nat} {before after : Option Entry} {opened : Bool}
    (h : Fate limits now before opened after) (hb : ∀ e, before = some e → e.InBounds limits) :
    ∀ e, after = some e → e.InBounds limits := by
  cases h with
  | kept => exact hb
  | rolled e =>
    rintro _ ⟨⟩
    obtain ⟨hheld, hperIp, hperMinute⟩ := hb e rfl
    have hcurrent := e.current_roll now
    exact ⟨hcurrent ▸ hheld, hcurrent ▸ hperIp,
      Nat.le_trans (e.minuteCount_roll_le now) hperMinute⟩
  | counted entry hd =>
    rintro _ ⟨⟩
    obtain ⟨hperIp, hperMinute⟩ := decide_eq_admitted_iff.mp hd
    exact ⟨Nat.succ_pos _, hperIp, hperMinute⟩
  | lessened e hmore =>
    rintro _ ⟨⟩
    obtain ⟨-, hperIp, hperMinute⟩ := hb e rfl
    exact ⟨Nat.le_sub_one_of_lt hmore, Nat.le_trans (Nat.sub_le _ _) hperIp, hperMinute⟩
  | cleared => exact fun _ h => nomatch h

end Entry

/-! ## Touches -/

/-- What an action that touches a client, or does not, can make of its entry and how it is
answered. -/
inductive Touched (limits : Limits) (before : Option Entry) :
    Option Touch → Option Decision → Option Entry → Prop
  | apart : Touched limits before none none before
  | full (now : Nat) : Touched limits before (some (.ask now)) (some .rejectedGlobal) before
  | asked (now : Nat) : Touched limits before (some (.ask now))
      (some (Entry.ask limits before now).1) (Entry.ask limits before now).2
  | gaveBack : Touched limits before (some .giveBack) none (Entry.giveBack before)

/-- An exact account of what an action makes of an entry tells its fate. -/
theorem Touched.fate {limits : Limits} {now : Nat} {before after : Option Entry}
    {touch : Option Touch} {answer : Option Decision} (h : Touched limits before touch answer after)
    (hnow : ∀ asked, touch = some (.ask asked) → asked = now) :
    Entry.Fate limits now before (answer = some .admitted) after := by
  cases h with
  | apart => exact .kept before
  | full asked => exact .kept before
  | asked asked =>
    obtain rfl := hnow asked rfl
    by_cases hd : ((before.getD (.fresh asked)).roll asked).decide limits = .admitted
    · rw [Entry.ask_of_admitted hd]
      exact .counted before hd
    · rw [Entry.ask_of_refused hd, decide_eq_false fun hsome => hd (Option.some.inj hsome)]
      cases before with
      | none => exact .kept none
      | some e => exact .rolled e
  | gaveBack =>
    cases before with
    | none => exact .kept none
    | some e =>
      rw [Entry.giveBack]
      by_cases hlast : e.current ≤ 1
      · rw [if_pos hlast]
        exact .cleared e hlast
      · rw [if_neg hlast]
        exact .lessened e (Nat.lt_of_not_le hlast)

/-! ## One table -/

namespace Table

variable {t : Table} {ip other : String}

theorem entry?_attempt_of_ne (h : ip ≠ other) (now inUse : Nat) (limits : Limits) :
    Table.entry? (t.attempt ip now inUse limits).2 other = t.entry? other := by
  rcases t.attempt_cases ip now inUse limits with ⟨-, ha⟩ | ⟨-, -, ha⟩ | ⟨-, -, ha⟩
  · rw [ha]
  · rw [ha]
    split
    · exact (entry?_put ..).trans (if_neg h)
    · rfl
  · rw [ha]
    exact (entry?_put ..).trans (if_neg h)

theorem release_of_none (h : t.entry? ip = none) : t.release ip = t := by
  simp only [release, h]

theorem release_of_some {e : Entry} (h : t.entry? ip = some e) :
    t.release ip =
      { entries :=
          if e.current - 1 = 0 then discard ip t.entries
          else assign ip { e with current := e.current - 1 } t.entries
        globalCurrent := t.globalCurrent - 1 } := by
  simp only [release, h]

theorem entry?_release {e : Entry} (h : t.entry? ip = some e) (other : String) :
    Table.entry? (t.release ip) other = lookup other
      (if e.current - 1 = 0 then discard ip t.entries
        else assign ip { e with current := e.current - 1 } t.entries) := by
  rw [release_of_some h]
  rfl

theorem entry?_release_of_ne (h : ip ≠ other) :
    Table.entry? (t.release ip) other = t.entry? other := by
  cases he : t.entry? ip with
  | none => rw [release_of_none he]
  | some e =>
    rw [entry?_release he]
    split
    · exact lookup_discard_of_ne h _
    · exact (lookup_assign ..).trans (if_neg h)

theorem ask_eq_attempt (t : Table) (ip : String) (now : Nat) {inUse : Nat} {limits : Limits}
    (h : inUse < limits.maxConnections) :
    Entry.ask limits (t.entry? ip) now =
      ((t.attempt ip now inUse limits).1, Table.entry? (t.attempt ip now inUse limits).2 ip) := by
  rcases t.attempt_cases ip now inUse limits with ⟨hfull, -⟩ | ⟨-, hn, ha⟩ | ⟨-, hd, ha⟩
  · exact absurd h (Nat.not_lt_of_le hfull)
  · rw [ha, Entry.ask_of_refused hn]
    refine Prod.ext rfl ?_
    cases he : t.entry? ip with
    | none => exact he.symm
    | some e =>
      show _ = Table.entry? (t.put ip (t.judged ip now)) ip
      rw [entry?_put, if_pos rfl, judged, he]
      rfl
  · rw [ha, Entry.ask_of_admitted hd]
    refine Prod.ext rfl ?_
    show _ = Table.entry? (t.put ip ((t.judged ip now).count now)) ip
    rw [entry?_put, if_pos rfl]
    rfl

theorem touched_attempt (t : Table) (ip : String) (now inUse : Nat) (limits : Limits) :
    Touched limits (t.entry? ip) (some (.ask now)) (some (t.attempt ip now inUse limits).1)
      (Table.entry? (t.attempt ip now inUse limits).2 ip) := by
  by_cases hroom : inUse < limits.maxConnections
  · have hasked : Touched limits (t.entry? ip) (some (.ask now)) _ _ := .asked now
    rw [ask_eq_attempt t ip now hroom] at hasked
    exact hasked
  · rw [attempt, if_pos (Nat.le_of_not_lt hroom)]
    exact .full now

theorem entry?_release_self (h : (clients t.entries).Nodup) (ip : String) :
    Table.entry? (t.release ip) ip = Entry.giveBack (t.entry? ip) := by
  cases he : t.entry? ip with
  | none => rw [release_of_none he, he, Entry.giveBack]
  | some e =>
    rw [entry?_release he, Entry.giveBack]
    by_cases hlast : e.current ≤ 1
    · rw [if_pos (Nat.sub_eq_zero_of_le hlast), if_pos hlast, lookup_discard h, if_pos rfl]
    · rw [if_neg (Nat.sub_ne_zero_of_lt (Nat.lt_of_not_le hlast)), if_neg hlast, lookup_assign,
        if_pos rfl]

theorem mem_clients {entries : List (String × Entry)} {e : Entry} (h : (ip, e) ∈ entries) :
    ip ∈ clients entries :=
  List.mem_map_of_mem (f := Prod.fst) h

theorem lookup_of_mem {entries : List (String × Entry)} (h : (clients entries).Nodup) {e : Entry}
    (hm : (ip, e) ∈ entries) : lookup ip entries = some e := by
  induction entries with
  | nil => cases hm
  | cons entry entries ih =>
    obtain ⟨known, old⟩ := entry
    obtain ⟨hfirst, hrest⟩ := List.nodup_cons.mp h
    rcases List.mem_cons.mp hm with heq | hlater
    · cases heq
      exact if_pos rfl
    · have hne : known ≠ ip := by
        rintro rfl
        exact hfirst (mem_clients hlater)
      exact (if_neg hne).trans (ih hrest hlater)

/-- The entries show as many connections as a list has, if each shows those of its client. -/
theorem total_current {entries : List (String × Entry)} (h : (clients entries).Nodup)
    {held : List String} (hcount : ∀ ip e, (ip, e) ∈ entries → e.current = held.count ip)
    (hall : ∀ ip ∈ held, ip ∈ clients entries) :
    Sequence.total (fun entry => entry.2.current) entries = held.length := by
  induction entries generalizing held with
  | nil =>
    have hnil : held = [] := List.eq_nil_iff_forall_not_mem.mpr fun ip hip => nomatch hall ip hip
    rw [hnil]
    rfl
  | cons entry entries ih =>
    obtain ⟨known, e⟩ := entry
    obtain ⟨hfirst, hrest⟩ := List.nodup_cons.mp h
    -- the connections of the first client are counted by its entry, the others by the rest
    have hothers : Sequence.total (fun entry => entry.2.current) entries =
        (held.filter (· ≠ known)).length := by
      refine ih hrest (fun ip other hother => ?_) (fun ip hip => ?_)
      · have hne : ip ≠ known := by
          rintro rfl
          exact hfirst (mem_clients hother)
        rw [List.count_filter (by simpa using hne)]
        exact hcount ip other (List.mem_cons_of_mem _ hother)
      · obtain ⟨hip, hne⟩ := List.mem_filter.mp hip
        exact (List.mem_cons.mp (hall ip hip)).resolve_left (by simpa using hne)
    have hsplit := List.length_eq_countP_add_countP (· == known) (l := held)
    rw [Sequence.total, hothers, hcount known e List.mem_cons_self, hsplit,
      ← List.countP_eq_length_filter]
    congr 1
    exact List.countP_congr fun ip _ => by simp

end Table

/-! ## Accounts of a history -/

namespace Accounts

variable {t : Table} {held : List String}

/-- A client that is recorded stands on the account, and the entry shows how often. -/
theorem mem_of_entry? (h : Accounts t held) {ip : String} {e : Entry} (he : t.entry? ip = some e) :
    ip ∈ held := by
  refine by_contra fun hn => ?_
  rw [h.entry?_eq_none_iff.mpr hn] at he
  cases he

/-- Nothing is subtracted from zero when a connection is given back. -/
theorem le_of_entry? (h : Accounts t held) {ip : String} {e : Entry} (he : t.entry? ip = some e) :
    1 ≤ e.current ∧ 1 ≤ t.globalCurrent := by
  have hmem := h.mem_of_entry? he
  rw [h.current_of_entry? he, h.total]
  exact ⟨List.count_pos_iff.mpr hmem, List.length_pos_of_mem hmem⟩

theorem total_current (h : Accounts t held) :
    Sequence.total (fun entry => entry.2.current) t.entries = t.globalCurrent := by
  rw [h.total]
  refine Table.total_current h.distinct (fun ip e he => ?_) (fun ip hip => ?_)
  · exact h.current_of_entry? (Table.lookup_of_mem h.distinct he)
  · refine by_contra fun hn => ?_
    exact h.entry?_eq_none_iff.mp (Table.lookup_eq_none_iff.mpr hn) hip

/-- Whoever gives a connection back, what is left is accounted for. -/
theorem exists_release (h : Accounts t held) (ip : String) :
    ∃ left, Accounts (t.release ip) left := by
  cases he : t.entry? ip with
  | none =>
    rw [Table.release_of_none he]
    exact ⟨held, h⟩
  | some e =>
    have hperm := List.perm_cons_erase (h.mem_of_entry? he)
    exact ⟨held.erase ip, (h.perm hperm).release⟩

theorem exists_attempt (h : Accounts t held) (ip : String) (now inUse : Nat) (limits : Limits) :
    ∃ left, Accounts (t.attempt ip now inUse limits).2 left := by
  by_cases hd : (t.attempt ip now inUse limits).1 = .admitted
  · exact ⟨_, h.attempt_admitted hd⟩
  · exact ⟨_, h.attempt_refused hd⟩

end Accounts

namespace Controller

/-- A controller that is switched on and accounts for connections, with every entry in bounds. -/
structure Regular (limits : Limits) (c : Controller) : Prop where
  enabled : c.enabled = true
  limits_eq : c.limits = limits
  accounts : ∃ held, Accounts c.table held
  inBounds : ∀ ip e, c.table.entry? ip = some e → e.InBounds limits

variable {limits : Limits} {c : Controller}

theorem regular_new (limits : Limits) : Regular limits (new true limits) where
  enabled := rfl
  limits_eq := rfl
  accounts := ⟨[], .empty⟩
  inBounds := fun _ _ h => nomatch h

/-- What an action makes of the entry of a client, told by how it touches the client. -/
theorem Regular.touched (h : Regular limits c) (a : Action) (ip : String) :
    Touched limits (c.table.entry? ip) (c.touch? ip a) (c.answer? ip a)
      ((c.act a).table.entry? ip) := by
  obtain ⟨held, haccounts⟩ := h.accounts
  cases a with
  | attempt client now =>
    simp only [Controller.act, touch?, answer?, attempt_of_enabled h.enabled, h.limits_eq]
    by_cases hip : client = ip
    · subst hip
      rw [if_pos rfl, if_pos rfl]
      exact Table.touched_attempt ..
    · rw [if_neg hip, if_neg hip, Table.entry?_attempt_of_ne hip]
      exact .apart
  | release client now =>
    simp only [Controller.act, touch?, answer?, release_of_enabled h.enabled]
    by_cases hip : client = ip
    · subst hip
      rw [if_pos rfl, Table.entry?_release_self haccounts.distinct]
      exact .gaveBack
    · rw [if_neg hip, Table.entry?_release_of_ne hip]
      exact .apart
  | transfer source target now =>
    by_cases hself : source = target
    · subst hself
      simp only [Controller.act, touch?, answer?, transfer_self, if_true, ne_eq, not_true_eq_false,
        false_and, if_false]
      exact .apart
    · simp only [Controller.act, touch?, answer?, transfer_of_ne h.enabled hself, h.limits_eq,
        hself, if_false, ne_eq, not_false_eq_true, true_and]
      have hattempt := c.table.touched_attempt target now (c.table.globalCurrent - 1) limits
      by_cases htarget : target = ip
      · subst htarget
        rw [if_pos rfl, if_pos rfl]
        split
        · rw [Table.entry?_release_of_ne hself]
          exact hattempt
        · exact hattempt
      · rw [if_neg htarget, if_neg htarget]
        by_cases hd : (c.table.attempt target now (c.table.globalCurrent - 1) limits).1 = .admitted
        · have hadmitted := haccounts.attempt_admitted hd
          have hkept := Table.entry?_attempt_of_ne (t := c.table) htarget now
            (c.table.globalCurrent - 1) limits
          rw [if_pos hd]
          by_cases hsource : source = ip
          · subst hsource
            rw [if_pos ⟨rfl, hd⟩, Table.entry?_release_self hadmitted.distinct, hkept]
            exact .gaveBack
          · rw [if_neg fun hboth => hsource hboth.1, Table.entry?_release_of_ne hsource, hkept]
            exact .apart
        · rw [if_neg hd, if_neg fun hboth => hd hboth.2, Table.entry?_attempt_of_ne htarget]
          exact .apart

theorem Regular.fate (h : Regular limits c) (a : Action) (ip : String) :
    Entry.Fate limits a.now (c.table.entry? ip) (c.opened? a = some ip)
      ((c.act a).table.entry? ip) := by
  have hfate := (h.touched a ip).fate fun now ht => now_of_touch? ht
  rw [decide_eq_decide.mpr opened?_eq_some_iff]
  exact hfate

/-! ## Histories -/

theorem Regular.exists_accounts_act (h : Regular limits c) (a : Action) :
    ∃ held, Accounts (c.act a).table held := by
  obtain ⟨held, haccounts⟩ := h.accounts
  cases a with
  | attempt client now =>
    simp only [act, attempt_of_enabled h.enabled]
    exact haccounts.exists_attempt ..
  | release client now =>
    simp only [act, release_of_enabled h.enabled]
    exact haccounts.exists_release client
  | transfer source target now =>
    by_cases hself : source = target
    · subst hself
      simp only [act, transfer_self]
      exact ⟨held, haccounts⟩
    · simp only [act, transfer_of_ne h.enabled hself]
      obtain ⟨more, hmore⟩ :=
        haccounts.exists_attempt target now (c.table.globalCurrent - 1) c.limits
      split
      · exact hmore.exists_release source
      · exact ⟨more, hmore⟩

/-- No action changes whether admission is limited, or the limits. -/
theorem switches_act (c : Controller) (a : Action) :
    (c.act a).enabled = c.enabled ∧ (c.act a).limits = c.limits := by
  cases a with
  | attempt client now =>
    simp only [act, attempt]
    split <;> exact ⟨rfl, rfl⟩
  | release client now =>
    simp only [act, release]
    split <;> exact ⟨rfl, rfl⟩
  | transfer source target now =>
    simp only [act, transfer]
    split
    · exact ⟨rfl, rfl⟩
    · split <;> exact ⟨rfl, rfl⟩

theorem Regular.act (h : Regular limits c) (a : Action) : Regular limits (c.act a) := by
  obtain ⟨henabled, hlimits⟩ := c.switches_act a
  exact
    { enabled := henabled.trans h.enabled
      limits_eq := hlimits.trans h.limits_eq
      accounts := h.exists_accounts_act a
      inBounds := fun ip => (h.fate a ip).inBounds (h.inBounds ip) }

theorem Regular.after (h : Regular limits c) (actions : List Action) :
    Regular limits (c.after actions) := by
  induction actions generalizing c with
  | nil => exact h
  | cons a actions ih => exact ih (h.act a)

/-- The table that a connection is given back to is an account itself. -/
theorem Regular.exists_accounts_returning (h : Regular limits c) {a : Action} {t : Table}
    {ip : String} (hr : c.returning? a = some (t, ip)) : ∃ held, Accounts t held := by
  obtain ⟨held, haccounts⟩ := h.accounts
  cases a with
  | attempt client now => cases hr
  | release client now =>
    rw [returning?, if_pos h.enabled] at hr
    cases hr
    exact ⟨held, haccounts⟩
  | transfer source target now =>
    simp only [returning?] at hr
    split at hr
    · split at hr
      · cases hr
        exact haccounts.exists_attempt ..
      · cases hr
    · cases hr

/-- After any history, whoever was given what back and however the clock went: every client has one
entry at most, and the number of all connections is the sum over the entries.  An entry shows at
least one connection, no more than a client may hold, and no more openings than the window allows.
And whatever is asked next, a connection is given back to a table with nothing to subtract from
zero: neither from the connections of the client, if it is recorded, nor from those of all. -/
theorem consistent_after (limits : Limits) (actions : List Action) :
    let c := (new true limits).after actions
    (Table.clients c.table.entries).Nodup ∧
      c.table.globalCurrent = Sequence.total (fun entry => entry.2.current) c.table.entries ∧
      (∀ ip e, (ip, e) ∈ c.table.entries →
        1 ≤ e.current ∧ e.current ≤ limits.maxPerIp ∧ e.minuteCount ≤ limits.maxPerMinute) ∧
      ∀ a t ip, c.returning? a = some (t, ip) → (c.act a).table = t.release ip ∧
        ∀ e, t.entry? ip = some e → 1 ≤ e.current ∧ 1 ≤ t.globalCurrent := by
  intro c
  have h : Regular limits c := (regular_new limits).after actions
  obtain ⟨held, haccounts⟩ := h.accounts
  refine ⟨haccounts.distinct, haccounts.total_current.symm, fun ip e he => ?_,
    fun a t ip hr => ⟨table_act_of_returning? hr, fun e he => ?_⟩⟩
  · obtain ⟨hheld, hperIp, hperMinute⟩ :=
      h.inBounds ip e (Table.lookup_of_mem haccounts.distinct he)
    exact ⟨hheld, hperIp, hperMinute⟩
  · obtain ⟨others, hothers⟩ := h.exists_accounts_returning hr
    exact hothers.le_of_entry? he

end Controller
end Admission
end WebSocket
