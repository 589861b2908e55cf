import WebSocket.Admission.Decision

/-
The table of admission: for every client how many connections it holds, and how many it opened
within the current window of one minute.  A client without connections has no entry.  The table
decides each attempt and records it; a refused newcomer leaves no trace.  Times are counted in
milliseconds.

Entries are set and removed one client at a time: `entry?_put` and `lookup_discard` say what is
found afterwards, and `attempt_cases` all that an attempt can lead to.
-/
namespace WebSocket
namespace Admission

/-- The length of the window within which the connections of a client are counted. -/
def window : Nat := 60000

/-- Limits on connections. -/
structure Limits where
  maxConnections : Nat
  maxPerIp : Nat
  maxPerMinute : Nat
deriving DecidableEq

namespace Limits

/-- Fifty connections in all, five to a client, and ten new ones a minute to a client. -/
def default : Limits :=
  { maxConnections := 50
    maxPerIp := 5
    maxPerMinute := 10 }

end Limits

/-- What is recorded of a client. -/
structure Entry where
  /-- The connections that it holds. -/
  current : Nat
  /-- The connections admitted since `windowStart`. -/
  minuteCount : Nat
  windowStart : Nat
  /-- When a connection was last admitted. -/
  lastSeen : Nat
deriving DecidableEq

namespace Entry

/-- The entry of a client that is seen for the first time. -/
def fresh (now : Nat) : Entry :=
  { current := 0
    minuteCount := 0
    windowStart := now
    lastSeen := now }

/-- The entry with a new window, if the old one is over. -/
def roll (e : Entry) (now : Nat) : Entry :=
  if now - e.windowStart ≥ window then { e with minuteCount := 0, windowStart := now } else e

/-- The entry with one more connection. -/
def count (e : Entry) (now : Nat) : Entry :=
  { e with
    current := e.current + 1
    minuteCount := e.minuteCount + 1
    lastSeen := now }

/-- Whether a client with this entry may open one more connection. -/
def decide (e : Entry) (limits : Limits) : Decision :=
  if e.current ≥ limits.maxPerIp then .rejectedPerIp
  else if e.minuteCount ≥ limits.maxPerMinute then .rejectedRate
  else .admitted

/-- A new window leaves the connections as they are. -/
@[simp] theorem current_roll (e : Entry) (now : Nat) : (e.roll now).current = e.current := by
  unfold roll
  split <;> rfl

@[simp] theorem current_count (e : Entry) (now : Nat) : (e.count now).current = e.current + 1 :=
  rfl

theorem roll_of_over {e : Entry} {now : Nat} (h : e.windowStart + window ≤ now) :
    e.roll now = { e with minuteCount := 0, windowStart := now } :=
  if_pos (Nat.le_sub_of_add_le' h)

theorem roll_of_open {e : Entry} {now : Nat} (h : now < e.windowStart + window) :
    e.roll now = e := by
  have hpos : 0 < window := by decide
  exact if_neg (by omega)

theorem decide_eq_admitted_iff {e : Entry} {limits : Limits} :
    e.decide limits = .admitted ↔
      e.current < limits.maxPerIp ∧ e.minuteCount < limits.maxPerMinute := by
  unfold decide
  by_cases hc : e.current ≥ limits.maxPerIp
  · rw [if_pos hc]
    simp [Nat.not_lt_of_le hc]
  · by_cases hm : e.minuteCount ≥ limits.maxPerMinute
    · rw [if_neg hc, if_pos hm]
      simp [Nat.not_lt_of_le hm]
    · rw [if_neg hc, if_neg hm]
      simp [Nat.lt_of_not_le hc, Nat.lt_of_not_le hm]

end Entry

/-- The entries of all clients that hold connections, and the number of all connections. -/
structure Table where
  entries : List (String × Entry)
  globalCurrent : Nat
deriving DecidableEq

namespace Table

/-- The table without connections. -/
def empty : Table :=
  { entries := []
    globalCurrent := 0 }

/-- The entry of a client among entries. -/
def lookup (ip : String) : List (String × Entry) → Option Entry
  | [] => none
  | (known, e) :: rest => if known = ip then some e else lookup ip rest

/-- The entries with that of a client set. -/
def assign (ip : String) (e : Entry) : List (String × Entry) → List (String × Entry)
  | [] => [(ip, e)]
  | (known, old) :: rest =>
    if known = ip then (known, e) :: rest else (known, old) :: assign ip e rest

/-- The entries without that of a client. -/
def discard (ip : String) : List (String × Entry) → List (String × Entry)
  | [] => []
  | (known, e) :: rest => if known = ip then rest else (known, e) :: discard ip rest

/-- The entry of a client. -/
def entry? (t : Table) (ip : String) : Option Entry :=
  lookup ip t.entries

/-- The clients that have entries. -/
def clients (entries : List (String × Entry)) : List String :=
  entries.map Prod.fst

/-- How many clients hold connections. -/
def tracked (t : Table) : Nat :=
  t.entries.length

/-- The table with the entry of a client set. -/
def put (t : Table) (ip : String) (e : Entry) : Table :=
  { t with entries := assign ip e t.entries }

/-- The entry that an attempt of a client is judged by. -/
def judged (t : Table) (ip : String) (now : Nat) : Entry :=
  t.entry? ip |>.getD (Entry.fresh now) |>.roll now

/-- Decides an attempt of a client and records it.  The global limit is tested against `inUse`,
which differs from the number of connections while one changes hands. -/
def attempt (t : Table) (ip : String) (now inUse : Nat) (limits : Limits) : Decision × Table :=
  if inUse ≥ limits.maxConnections then (.rejectedGlobal, t)
  else
    let e := t.judged ip now
    match e.decide limits with
    | .admitted =>
      (.admitted, { t.put ip (e.count now) with globalCurrent := t.globalCurrent + 1 })
    | refused => (refused, if t.entry? ip |>.isSome then t.put ip e else t)

/-- Gives back one connection of a client.  A client without an entry has none to give back. -/
def release (t : Table) (ip : String) : Table :=
  match t.entry? ip with
  | none => t
  | some e =>
    let current := e.current - 1
    { entries :=
        if current = 0 then discard ip t.entries
        else assign ip { e with current } t.entries
      globalCurrent := t.globalCurrent - 1 }

/-! ## Entries -/

@[simp] theorem clients_cons (known : String) (e : Entry) (rest : List (String × Entry)) :
    clients ((known, e) :: rest) = known :: clients rest := rfl

/-- Only a client in the list is found. -/
theorem lookup_eq_none_iff {ip : String} {entries : List (String × Entry)} :
    lookup ip entries = none ↔ ip ∉ clients entries := by
  induction entries with
  | nil => simp [lookup, clients]
  | cons entry rest ih =>
    obtain ⟨known, e⟩ := entry
    rw [lookup, clients_cons, List.mem_cons, not_or, ← ih]
    by_cases hk : known = ip
    · simp [hk]
    · simp [hk, Ne.symm hk]

theorem lookup_assign (ip other : String) (e : Entry) (entries : List (String × Entry)) :
    lookup other (assign ip e entries) = if ip = other then some e else lookup other entries := by
  induction entries with
  | nil => rfl
  | cons entry rest ih =>
    obtain ⟨known, old⟩ := entry
    by_cases hk : known = ip
    · subst hk
      by_cases ho : known = other <;> simp [assign, lookup, ho]
    · rw [assign, if_neg hk, lookup, lookup, ih]
      by_cases ho : known = other
      · subst ho
        simp [Ne.symm hk]
      · simp [ho]

/-- Setting an entry adds its client if it is new. -/
theorem clients_assign (ip : String) (e : Entry) (entries : List (String × Entry)) :
    clients (assign ip e entries) =
      if ip ∈ clients entries then clients entries else clients entries ++ [ip] := by
  induction entries with
  | nil => rfl
  | cons entry rest ih =>
    obtain ⟨known, old⟩ := entry
    by_cases hk : known = ip
    · simp [assign, hk]
    · rw [assign, if_neg hk, clients_cons, clients_cons, ih]
      by_cases hm : ip ∈ clients rest <;> simp [hm, Ne.symm hk]

theorem clients_discard (ip : String) (entries : List (String × Entry)) :
    clients (discard ip entries) = (clients entries).erase ip := by
  induction entries with
  | nil => rfl
  | cons entry rest ih =>
    obtain ⟨known, old⟩ := entry
    by_cases hk : known = ip
    · simp [discard, hk]
    · have hne : ¬ (known == ip) = true := by simpa using hk
      rw [discard, if_neg hk, clients_cons, clients_cons, ih, List.erase_cons_tail hne]

theorem lookup_discard_of_ne {ip other : String} (h : ip ≠ other)
    (entries : List (String × Entry)) :
    lookup other (discard ip entries) = lookup other entries := by
  induction entries with
  | nil => rfl
  | cons entry rest ih =>
    obtain ⟨known, old⟩ := entry
    by_cases hk : known = ip
    · subst hk
      simp [discard, lookup, h]
    · rw [discard, if_neg hk, lookup, lookup, ih]

/-- Where no client stands twice, removing its entry leaves it without one. -/
theorem lookup_discard {ip other : String} {entries : List (String × Entry)}
    (h : (clients entries).Nodup) :
    lookup other (discard ip entries) = if ip = other then none else lookup other entries := by
  by_cases ho : ip = other
  · subst ho
    rw [if_pos rfl, lookup_eq_none_iff, clients_discard]
    exact h.not_mem_erase
  · rw [if_neg ho, lookup_discard_of_ne ho]

theorem nodup_assign {ip : String} {e : Entry} {entries : List (String × Entry)}
    (h : (clients entries).Nodup) : (clients (assign ip e entries)).Nodup := by
  rw [clients_assign]
  split
  · exact h
  · rename_i hm
    rw [List.nodup_append]
    refine ⟨h, by simp, ?_⟩
    intro a ha b hb hab
    rw [List.mem_singleton] at hb
    exact hm (hb ▸ hab ▸ ha)

theorem nodup_discard {ip : String} {entries : List (String × Entry)}
    (h : (clients entries).Nodup) : (clients (discard ip entries)).Nodup := by
  rw [clients_discard]
  exact h.erase ip

@[simp] theorem entry?_put (t : Table) (ip other : String) (e : Entry) :
    Table.entry? (t.put ip e) other = if ip = other then some e else t.entry? other :=
  lookup_assign ip other e t.entries

/-! ## Attempts -/

/-- What an attempt can lead to.  The limit on all connections refuses it and nothing is recorded;
the limits on the client refuse it and the entry of a known client keeps the window that may have
begun; or it is admitted and counted. -/
theorem attempt_cases (t : Table) (ip : String) (now inUse : Nat) (limits : Limits) :
    (limits.maxConnections ≤ inUse ∧
      t.attempt ip now inUse limits = (.rejectedGlobal, t)) ∨
    (inUse < limits.maxConnections ∧ (t.judged ip now).decide limits ≠ .admitted ∧
      t.attempt ip now inUse limits =
        ((t.judged ip now).decide limits,
          if t.entry? ip |>.isSome then t.put ip (t.judged ip now) else t)) ∨
    (inUse < limits.maxConnections ∧ (t.judged ip now).decide limits = .admitted ∧
      t.attempt ip now inUse limits =
        (.admitted, { t.put ip ((t.judged ip now).count now) with
          globalCurrent := t.globalCurrent + 1 })) := by
  unfold attempt
  by_cases hg : inUse ≥ limits.maxConnections
  · exact .inl ⟨hg, if_pos hg⟩
  · have hlt : inUse < limits.maxConnections := Nat.lt_of_not_le hg
    rw [if_neg hg]
    by_cases hd : (t.judged ip now).decide limits = .admitted
    · exact .inr (.inr ⟨hlt, hd, by simp only [hd]⟩)
    · refine .inr (.inl ⟨hlt, hd, ?_⟩)
      cases he : (t.judged ip now).decide limits with
      | admitted => exact absurd he hd
      | rejectedGlobal => simp only [he]
      | rejectedPerIp => simp only [he]
      | rejectedRate => simp only [he]

end Table
end Admission
end WebSocket
