import Mathlib.Data.List.TakeWhile
import WebSocket.Proofs.Admission.Entries

/-
How many connections a client can open in one minute, whichever minute it is.  The limit is on one
window, and the windows of a client are not the minutes of the clock: a window may have begun before
the minute and end in it, and a client that gives back its last connection is forgotten together
with its window, so that its next connection begins another.  Each of the two lets the client open
as many connections again as one window allows (`Controller.admissions_le`).

What a client may open until the minute is over, if it gives nothing back, is its `quota`.  No
action opens a connection without taking it from the quota, and only the return of a last
connection adds to it (`Entry.Fate.quota_le`).
-/
namespace WebSocket
namespace Admission

/-- How many of some moments lie in the minute from `start`. -/
def inMinute (start : Nat) (moments : List Nat) : Nat :=
  moments.countP fun now => start ≤ now ∧ now < start + window

theorem inMinute_append (start : Nat) (earlier later : List Nat) :
    inMinute start (earlier ++ later) = inMinute start earlier + inMinute start later :=
  List.countP_append

theorem inMinute_eq_zero {start : Nat} {moments : List Nat}
    (h : ∀ now ∈ moments, now < start ∨ start + window ≤ now) : inMinute start moments = 0 := by
  refine List.countP_eq_zero.mpr fun now hnow => ?_
  have := h now hnow
  rw [decide_eq_true_eq]
  omega

namespace Entry

/-- The window of an entry has begun before a moment, and is not over then. -/
def straddles (e : Entry) (start : Nat) : Bool :=
  e.windowStart < start && start < e.windowStart + window

/-- The connections that a client may open in the minute from `start` and before it gives back its
last one.  A window that straddles the moment is followed by another one in the minute. -/
def quota (limits : Limits) (start : Nat) : Option Entry → Nat
  | none => limits.maxPerMinute
  | some e =>
    if e.windowStart + window ≤ start then limits.maxPerMinute
    else if start ≤ e.windowStart then limits.maxPerMinute - e.minuteCount
    else limits.maxPerMinute - e.minuteCount + limits.maxPerMinute

variable {limits : Limits} {start now : Nat}

theorem quota_of_over {e : Entry} (h : e.windowStart + window ≤ start) :
    quota limits start (some e) = limits.maxPerMinute :=
  if_pos h

theorem quota_of_begun {e : Entry} (h : start ≤ e.windowStart) :
    quota limits start (some e) = limits.maxPerMinute - e.minuteCount := by
  have hopen : start < e.windowStart + window :=
    Nat.lt_of_le_of_lt h (Nat.lt_add_of_pos_right (by decide))
  exact (if_neg (Nat.not_le_of_lt hopen)).trans (if_pos h)

theorem quota_of_straddles {e : Entry} (h : e.straddles start) :
    quota limits start (some e) =
      limits.maxPerMinute - e.minuteCount + limits.maxPerMinute := by
  simp only [straddles, Bool.and_eq_true, decide_eq_true_eq] at h
  exact (if_neg (Nat.not_le_of_lt h.2)).trans (if_neg (Nat.not_le_of_lt h.1))

/-- A window is over at a moment, begins at it or later, or straddles it. -/
theorem window_cases (e : Entry) (start : Nat) :
    e.windowStart + window ≤ start ∨ start ≤ e.windowStart ∨ e.straddles start := by
  simp only [straddles, Bool.and_eq_true, decide_eq_true_eq]
  omega

theorem quota_le (limits : Limits) (start : Nat) (entry : Option Entry) :
    quota limits start entry ≤
      (1 + (entry.any (·.straddles start)).toNat) * limits.maxPerMinute := by
  cases entry with
  | none => simp [quota]
  | some e =>
    rw [Option.any_some, Nat.add_mul, Nat.one_mul]
    rcases e.window_cases start with hover | hbegun | hstraddles
    · rw [quota_of_over hover]
      exact Nat.le_add_right ..
    · rw [quota_of_begun hbegun]
      exact Nat.le_add_right_of_le (Nat.sub_le ..)
    · rw [quota_of_straddles hstraddles, hstraddles, Bool.toNat_true, Nat.one_mul]
      exact Nat.add_le_add_right (Nat.sub_le ..) _

/-- A window that begins within the minute is the last of it. -/
theorem quota_roll_le (limits : Limits) (e : Entry) (hstart : start ≤ now)
    (hend : now < start + window) :
    quota limits start (some (e.roll now)) ≤ quota limits start (some e) := by
  unfold roll
  split
  · rename_i hover
    have hnew : quota limits start (some { e with minuteCount := 0, windowStart := now }) =
        limits.maxPerMinute := quota_of_begun hstart
    rw [hnew]
    rcases e.window_cases start with hover | hbegun | hstraddles
    · exact Nat.le_of_eq (quota_of_over hover).symm
    · omega
    · rw [quota_of_straddles hstraddles]
      exact Nat.le_add_left ..
  · exact Nat.le_refl _

theorem lt_windowStart_roll (e : Entry) (now : Nat) : now < (e.roll now).windowStart + window := by
  unfold roll
  split
  · exact Nat.lt_add_of_pos_right (by decide)
  · omega

/-- A connection that is counted is taken from the quota, unless the window is over. -/
theorem quota_count_lt (e : Entry) (now : Nat) (hopen : start < e.windowStart + window)
    (hcount : e.minuteCount < limits.maxPerMinute) :
    quota limits start (some (e.count now)) < quota limits start (some e) := by
  have hless : limits.maxPerMinute - (e.minuteCount + 1) < limits.maxPerMinute - e.minuteCount := by
    omega
  rcases e.window_cases start with hover | hbegun | hstraddles
  · omega
  · have hcounted : quota limits start (some (e.count now)) =
        limits.maxPerMinute - (e.minuteCount + 1) := quota_of_begun hbegun
    rw [quota_of_begun hbegun, hcounted]
    exact hless
  · have hcounted : quota limits start (some (e.count now)) =
        limits.maxPerMinute - (e.minuteCount + 1) + limits.maxPerMinute :=
      quota_of_straddles hstraddles
    rw [quota_of_straddles hstraddles, hcounted]
    exact Nat.add_lt_add_right hless _

/-- What an action in the minute opens is taken from the quota.  A client that gives back its last
connection has the quota of a window again. -/
theorem Fate.quota_le {before after : Option Entry} {opened : Bool}
    (h : Fate limits now before opened after) (hstart : start ≤ now) (hend : now < start + window) :
    opened.toNat + quota limits start after ≤
      quota limits start before + (before.isSome && after.isNone).toNat * limits.maxPerMinute := by
  cases h with
  | kept => simp
  | rolled e =>
    rw [Bool.toNat_false, Nat.zero_add]
    exact Nat.le_add_right_of_le (quota_roll_le limits e hstart hend)
  | counted _ hd =>
    obtain ⟨-, hcount⟩ := decide_eq_admitted_iff.mp hd
    have hbefore : quota limits start (some (before.getD (.fresh now))) ≤
        quota limits start before := by
      cases before with
      | none =>
        have hfresh : quota limits start (some (fresh now)) = limits.maxPerMinute - 0 :=
          quota_of_begun hstart
        rw [Option.getD_none, hfresh]
        exact Nat.le_refl _
      | some e => exact Nat.le_refl _
    have hrolled := quota_roll_le limits (before.getD (.fresh now)) hstart hend
    have hopen := lt_windowStart_roll (before.getD (.fresh now)) now
    have hless := quota_count_lt _ now (Nat.lt_of_le_of_lt hstart hopen) hcount
    simp only [Bool.toNat_true, Option.isNone_some, Bool.and_false, Bool.toNat_false]
    omega
  | lessened e =>
    have hsame : quota limits start (some { e with current := e.current - 1 }) =
        quota limits start (some e) := by simp only [quota]
    rw [Bool.toNat_false, Nat.zero_add, hsame]
    exact Nat.le_add_right ..
  | cleared e =>
    simp only [quota, Bool.toNat_false, Option.isSome_some, Option.isNone_none, Bool.and_self,
      Bool.toNat_true]
    omega

end Entry

namespace Controller

variable {limits : Limits} {c : Controller}

/-- How many of the moments of a history lie in a minute, told by its first action. -/
theorem inMinute_moments_cons (marked : Controller → Action → Bool) (c : Controller) (a : Action)
    (actions : List Action) {start : Nat} (hstart : start ≤ a.now) (hend : a.now < start + window) :
    inMinute start (c.moments marked (a :: actions)) =
      (marked c a).toNat + inMinute start ((c.act a).moments marked actions) := by
  rw [moments]
  by_cases hm : marked c a = true
  · rw [if_pos hm, hm, inMinute, List.countP_cons_of_pos (by simpa using ⟨hstart, hend⟩)]
    exact Nat.add_comm _ 1
  · rw [if_neg hm, Bool.eq_false_iff.mpr hm, Bool.toNat_false, Nat.zero_add]

/-- From the beginning of a minute on, the connections that a client opens in it are taken from its
quota, and from that of a window for every last connection that it gives back in it. -/
theorem Regular.inMinute_admissions_le (h : Regular limits c) {actions : List Action}
    (hclock : actions.Pairwise (·.now ≤ ·.now)) (ip : String) {start : Nat}
    (hstart : ∀ a ∈ actions, start ≤ a.now) :
    inMinute start (c.admissions ip actions) ≤
      Entry.quota limits start (c.table.entry? ip) +
        inMinute start (c.departures ip actions) * limits.maxPerMinute := by
  induction actions generalizing c with
  | nil => exact Nat.zero_le _
  | cons a actions ih =>
    obtain ⟨hlater, hrest⟩ := List.pairwise_cons.mp hclock
    have hfirst : start ≤ a.now := hstart a List.mem_cons_self
    by_cases hend : a.now < start + window
    · have hsteps := ih (h.act a) hrest fun b hb => hstart b (List.mem_cons_of_mem a hb)
      have hstep : (decide (c.opened? a = some ip)).toNat +
          Entry.quota limits start ((c.act a).table.entry? ip) ≤
            Entry.quota limits start (c.table.entry? ip) +
              (c.clears ip a).toNat * limits.maxPerMinute :=
        (h.fate a ip).quota_le hfirst hend
      simp only [admissions, departures] at hsteps ⊢
      rw [inMinute_moments_cons _ c a actions hfirst hend,
        inMinute_moments_cons _ c a actions hfirst hend, Nat.add_mul]
      omega
    · -- the minute is over, and the clock does not go back
      have hnone : inMinute start (c.admissions ip (a :: actions)) = 0 := by
        refine inMinute_eq_zero fun now hnow => ?_
        obtain ⟨b, hb, rfl⟩ := exists_of_mem_moments hnow
        rcases List.mem_cons.mp hb with rfl | hb
        · omega
        · have := hlater b hb
          omega
      rw [hnone]
      exact Nat.zero_le _

/-- Where the clock does not go back, the actions before a moment come first. -/
theorem le_of_mem_dropWhile {actions : List Action} (hclock : actions.Pairwise (·.now ≤ ·.now))
    (start : Nat) : ∀ a ∈ actions.dropWhile (·.now < start), start ≤ a.now := by
  induction actions with
  | nil => exact fun a ha => absurd ha List.not_mem_nil
  | cons first rest ih =>
    obtain ⟨hlater, hrest⟩ := List.pairwise_cons.mp hclock
    by_cases hf : first.now < start
    · rw [List.dropWhile_cons_of_pos (by simpa using hf)]
      exact ih hrest
    · rw [List.dropWhile_cons_of_neg (by simpa using hf)]
      intro a ha
      rcases List.mem_cons.mp ha with rfl | ha
      · exact Nat.le_of_not_lt hf
      · exact Nat.le_trans (Nat.le_of_not_lt hf) (hlater a ha)

/-- The connections that a client opens in any minute: as many as one window allows, once for a
window in the minute, once more for one that has begun before it, and once more for every last
connection that the client gives back in it. -/
theorem admissions_le (limits : Limits) {actions : List Action}
    (hclock : actions.Pairwise (·.now ≤ ·.now)) (ip : String) (start : Nat) :
    let c := new true limits
    let before := c.after (actions.takeWhile (·.now < start))
    inMinute start (c.admissions ip actions) ≤
      (1 + (Option.any (·.straddles start) <| before.table.entry? ip).toNat +
        inMinute start (c.departures ip actions)) * limits.maxPerMinute := by
  intro c before
  have hsplit := List.takeWhile_append_dropWhile (p := fun a : Action => decide (a.now < start))
    (l := actions)
  have hnone (marked : Controller → Action → Bool) :
      inMinute start (c.moments marked (actions.takeWhile (·.now < start))) = 0 := by
    refine inMinute_eq_zero fun now hnow => ?_
    obtain ⟨a, ha, rfl⟩ := exists_of_mem_moments hnow
    exact .inl (by simpa using List.mem_takeWhile_imp ha)
  have hcount (marked : Controller → Action → Bool) : inMinute start (c.moments marked actions) =
      inMinute start (before.moments marked (actions.dropWhile (·.now < start))) := by
    conv_lhs => rw [← hsplit, moments_append, inMinute_append, hnone, Nat.zero_add]
  have hbefore : Regular limits before := (regular_new limits).after _
  have hrest := hbefore.inMinute_admissions_le
    (hclock.sublist (List.dropWhile_sublist _)) ip (le_of_mem_dropWhile hclock start)
  have hquota := Entry.quota_le limits start <| before.table.entry? ip
  simp only [admissions, departures] at hrest ⊢
  rw [hcount, hcount, Nat.add_mul]
  omega

/-- A client that may open one connection a minute opens two, as it is forgotten in between. -/
theorem admissions_le_of_return :
    let actions := [.attempt "a" 0, .release "a" 10, .attempt "a" 1000]
    let c := new true ⟨50, 5, 1⟩
    actions.Pairwise (·.now ≤ ·.now) ∧ c.admissions "a" actions = [0, 1000] ∧
      inMinute 0 (c.admissions "a" actions) ≤ (1 + 0 + 1) * 1 :=
  ⟨by decide, by decide, admissions_le ⟨50, 5, 1⟩ (by decide) "a" 0⟩

/-- The limit on a window is not one on every minute.  A client that may open two connections a
minute opens one with a window that is nearly over, and then two with the next window. -/
theorem not_forall_admissions_le_maxPerMinute :
    ¬ ∀ (limits : Limits) (actions : List Action), actions.Pairwise (·.now ≤ ·.now) →
      ∀ (ip : String) (start : Nat),
        inMinute start ((new true limits).admissions ip actions) ≤ limits.maxPerMinute := by
  intro h
  have hthree := h ⟨50, 5, 2⟩
    [.attempt "a" 0, .attempt "a" 59000, .attempt "a" 60000, .attempt "a" 60000] (by decide)
    "a" 59000
  revert hthree
  decide

end Controller
end Admission
end WebSocket
