import Mathlib.Data.List.Induction
import WebSocket.Proofs.Admission.Entries

/-
What is counted in a window.  A window begins when the entry of its client is made, and when an
attempt finds the one before over, be it admitted or refused; then it has counted that attempt, if
it was admitted, and nothing else.  Until the next one begins every connection that the client opens
is counted (`Controller.Regular.window_cases`).  So an entry can be checked against the history: its
count is that of the connections opened since the last beginning, and all of them lie in the minute
from then on (`Controller.window_accounted`).
-/
namespace WebSocket
namespace Admission

/-! ## One entry -/

namespace Entry

variable {limits : Limits} {now : Nat} {before : Option Entry} {opened : Bool} {after : Entry}

/-- What an action makes of the window of a client that is recorded afterwards.  It begins one, the
one before being over, or the one before goes on. -/
theorem Fate.window_cases (h : Fate limits now before opened (some after)) :
    ((∀ e, before = some e → e.windowStart + window ≤ now) ∧
      after.windowStart = now ∧ after.minuteCount = opened.toNat) ∨
    ∃ e, before = some e ∧ after.windowStart = e.windowStart ∧
      after.minuteCount = e.minuteCount + opened.toNat ∧
      (opened = true → now < e.windowStart + window) := by
  cases h with
  | kept => exact .inr ⟨after, rfl, rfl, rfl, fun h => absurd h Bool.false_ne_true⟩
  | rolled e =>
    by_cases hover : e.windowStart + window ≤ now
    · rw [roll_of_over hover]
      exact .inl ⟨fun f hf => Option.some.inj hf ▸ hover, rfl, rfl⟩
    · rw [roll_of_open (Nat.lt_of_not_le hover)]
      exact .inr ⟨e, rfl, rfl, rfl, fun h => absurd h Bool.false_ne_true⟩
  | counted entry hd =>
    cases before with
    | none =>
      have hopen : now < (fresh now).windowStart + window :=
        Nat.lt_add_of_pos_right (by decide)
      rw [Option.getD_none, roll_of_open hopen]
      refine .inl ⟨fun f hf => ?_, rfl, rfl⟩
      cases hf
    | some e =>
      rw [Option.getD_some]
      by_cases hover : e.windowStart + window ≤ now
      · rw [roll_of_over hover]
        exact .inl ⟨fun f hf => Option.some.inj hf ▸ hover, rfl, rfl⟩
      · have hopen : now < e.windowStart + window := Nat.lt_of_not_le hover
        rw [roll_of_open hopen]
        exact .inr ⟨e, rfl, rfl, rfl, fun _ => hopen⟩
  | lessened e hmore => exact .inr ⟨e, rfl, rfl, rfl, fun h => absurd h Bool.false_ne_true⟩

/-- The last admission is that of the action, or that of the entry before. -/
theorem Fate.lastSeen_cases (h : Fate limits now before opened (some after)) :
    (opened = true ∧ after.lastSeen = now) ∨
      opened = false ∧ ∃ e, before = some e ∧ after.lastSeen = e.lastSeen := by
  cases h with
  | kept => exact .inr ⟨rfl, after, rfl, rfl⟩
  | rolled e =>
    refine .inr ⟨rfl, e, rfl, ?_⟩
    unfold roll
    split <;> rfl
  | counted => exact .inl ⟨rfl, rfl⟩
  | lessened e => exact .inr ⟨rfl, e, rfl, rfl⟩

end Entry

namespace Controller

variable {limits : Limits} {c : Controller} {ip : String}

/-! ## One action -/

/-- A window begins with an action, and counts the connection that is opened by it, or goes on and
counts it too. -/
theorem Regular.window_cases (h : Regular limits c) (a : Action) {after : Entry}
    (ha : (c.act a).table.entry? ip = some after) :
    (c.begins ip a = true ∧ (∀ e, c.table.entry? ip = some e → e.windowStart + window ≤ a.now) ∧
      after.windowStart = a.now ∧
      after.minuteCount = (decide (c.opened? a = some ip)).toNat) ∨
    (c.begins ip a = false ∧ ∃ e, c.table.entry? ip = some e ∧
      after.windowStart = e.windowStart ∧
      after.minuteCount = e.minuteCount + (decide (c.opened? a = some ip)).toNat ∧
      (c.opened? a = some ip → a.now < e.windowStart + window)) := by
  have hfate := h.fate a ip
  rw [ha] at hfate
  rcases hfate.window_cases with ⟨hover, hstart, hcount⟩ | ⟨e, he, hstart, hcount, hopen⟩
  · refine .inl ⟨?_, hover, hstart, hcount⟩
    rw [begins, ha, Option.any_some]
    cases he : c.table.entry? ip with
    | none => rfl
    | some e =>
      have hpos : 0 < window := by decide
      have hless := hover e he
      simp only [Option.all_some, decide_eq_true_eq]
      omega
  · refine .inr ⟨?_, e, he, hstart, hcount, fun hopened => hopen (decide_eq_true hopened)⟩
    rw [begins, ha, Option.any_some, he, Option.all_some, hstart]
    exact decide_eq_false fun hne => hne rfl

/-! ## Histories -/

theorem admissions_concat (c : Controller) (ip : String) (actions : List Action) (a : Action) :
    c.admissions ip (actions ++ [a]) =
      c.admissions ip actions ++ if (c.after actions).opened? a = some ip then [a.now] else [] := by
  rw [admissions, moments_concat]
  simp only [decide_eq_true_eq]
  rfl

theorem beginnings_concat (c : Controller) (ip : String) (actions : List Action) (a : Action) :
    c.beginnings ip (actions ++ [a]) =
      c.beginnings ip actions ++ if (c.after actions).begins ip a then [a.now] else [] :=
  moments_concat ..

/-- The window of an entry, told by the action that began it and the actions since.  No other window
began since, and what it has counted is what the client opened with these actions, all of it in the
minute from the beginning on. -/
structure Begun (c : Controller) (ip : String) (e : Entry) (a : Action) (later : List Action) :
    Prop where
  begins : c.begins ip a = true
  last : (c.act a).beginnings ip later = []
  start : e.windowStart = a.now
  count : e.minuteCount = (c.admissions ip (a :: later)).length
  inside : ∀ now ∈ c.admissions ip (a :: later),
    e.windowStart ≤ now ∧ now < e.windowStart + window

theorem begun_of_begins {e : Entry} {a : Action} (hbegins : c.begins ip a = true)
    (hstart : e.windowStart = a.now)
    (hcount : e.minuteCount = (decide (c.opened? a = some ip)).toNat) : Begun c ip e a [] := by
  have hopened : c.admissions ip [a] = if c.opened? a = some ip then [a.now] else [] :=
    c.admissions_concat ip [] a
  refine ⟨hbegins, rfl, hstart, ?_, fun now hnow => ?_⟩
  · rw [hcount, hopened]
    by_cases ho : c.opened? a = some ip <;> simp [ho]
  · rw [hopened] at hnow
    have hpos : 0 < window := by decide
    by_cases ho : c.opened? a = some ip
    · rw [if_pos ho, List.mem_singleton] at hnow
      omega
    · rw [if_neg ho] at hnow
      cases hnow

theorem Begun.goes_on {e after : Entry} {a b : Action} {later : List Action}
    (h : Begun c ip e a later) (hgoes : (c.after (a :: later)).begins ip b = false)
    (hstart : after.windowStart = e.windowStart)
    (hcount : after.minuteCount =
      e.minuteCount + (decide ((c.after (a :: later)).opened? b = some ip)).toNat)
    (hinside : (c.after (a :: later)).opened? b = some ip →
      e.windowStart ≤ b.now ∧ b.now < e.windowStart + window) :
    Begun c ip after a (later ++ [b]) := by
  have hopened : c.admissions ip (a :: (later ++ [b])) = c.admissions ip (a :: later) ++
      if (c.after (a :: later)).opened? b = some ip then [b.now] else [] :=
    c.admissions_concat ip (a :: later) b
  refine ⟨h.begins, ?_, hstart.trans h.start, ?_, fun now hnow => ?_⟩
  · have hlast := (c.act a).beginnings_concat ip later b
    rw [h.last, show (c.act a).after later = c.after (a :: later) from rfl, hgoes] at hlast
    exact hlast
  · rw [hcount, h.count, hopened, List.length_append]
    by_cases ho : (c.after (a :: later)).opened? b = some ip <;> simp [ho]
  · rw [hstart]
    rw [hopened, List.mem_append] at hnow
    rcases hnow with hnow | hnow
    · exact h.inside now hnow
    · by_cases ho : (c.after (a :: later)).opened? b = some ip
      · rw [if_pos ho, List.mem_singleton] at hnow
        exact hnow ▸ hinside ho
      · rw [if_neg ho] at hnow
        cases hnow

/-- A client that is recorded has a window that began with some action. -/
theorem exists_begun (limits : Limits) {actions : List Action}
    (hclock : actions.Pairwise (·.now ≤ ·.now)) {e : Entry}
    (he : ((new true limits).after actions).table.entry? ip = some e) :
    ∃ earlier a later, actions = earlier ++ a :: later ∧
      Begun ((new true limits).after earlier) ip e a later := by
  induction actions using List.reverseRecOn generalizing e with
  | nil => cases he
  | append_singleton actions b ih =>
    obtain ⟨hclock, -, hlater⟩ := List.pairwise_append.mp hclock
    have h : Regular limits ((new true limits).after actions) := (regular_new limits).after actions
    rw [after_append] at he
    rcases h.window_cases b he with
      ⟨hbegins, -, hstart, hcount⟩ | ⟨hgoes, before, hbefore, hstart, hcount, hopen⟩
    · exact ⟨actions, b, [], rfl, begun_of_begins hbegins hstart hcount⟩
    · obtain ⟨earlier, a, later, rfl, hbegun⟩ := ih hclock hbefore
      rw [after_append] at hgoes hcount hopen
      refine ⟨earlier, a, later ++ [b], List.append_assoc .., ?_⟩
      refine hbegun.goes_on hgoes hstart hcount fun hopened => ⟨?_, hopen hopened⟩
      rw [hbegun.start]
      exact hlater a (List.mem_append_right earlier List.mem_cons_self) b
        (List.mem_singleton_self b)

/-- The entry of a client shows when it opened a connection last. -/
theorem getLast?_admissions (limits : Limits) {actions : List Action} {e : Entry}
    (he : ((new true limits).after actions).table.entry? ip = some e) :
    ((new true limits).admissions ip actions).getLast? = some e.lastSeen := by
  induction actions using List.reverseRecOn generalizing e with
  | nil => cases he
  | append_singleton actions b ih =>
    have h : Regular limits ((new true limits).after actions) := (regular_new limits).after actions
    rw [after_append] at he
    have hfate := h.fate b ip
    rw [show ((((new true limits).after actions).act b).table.entry? ip) = some e from he] at hfate
    rw [admissions_concat]
    rcases hfate.lastSeen_cases with ⟨hopened, hseen⟩ | ⟨hopened, before, hbefore, hseen⟩
    · rw [if_pos (of_decide_eq_true hopened), List.getLast?_concat, hseen]
    · rw [if_neg (of_decide_eq_false hopened), List.append_nil, hseen]
      exact ih hbefore

/-- As long as the entry of a client is not removed, each window begins a minute after the one
before at the earliest. -/
theorem Regular.windowStart_after (h : Regular limits c) {actions : List Action}
    {first last : Entry} (hfirst : c.table.entry? ip = some first)
    (hlife : c.departures ip actions = [])
    (hlast : (c.after actions).table.entry? ip = some last) :
    last.windowStart = first.windowStart ∨ first.windowStart + window ≤ last.windowStart := by
  induction actions generalizing c first with
  | nil => exact .inl (congrArg Entry.windowStart (Option.some.inj (hlast.symm.trans hfirst)))
  | cons a actions ih =>
    rw [departures, moments] at hlife
    by_cases hclears : c.clears ip a = true
    · rw [if_pos hclears] at hlife
      cases hlife
    · rw [if_neg hclears] at hlife
      have hkept : ((c.act a).table.entry? ip).isSome := by
        simpa [clears, hfirst, Option.isSome_iff_ne_none] using hclears
      obtain ⟨next, hnext⟩ := Option.isSome_iff_exists.mp hkept
      have hrest := ih (h.act a) hnext hlife hlast
      rcases h.window_cases a hnext with ⟨-, hover, hstart, -⟩ | ⟨-, e, he, hstart, -, -⟩
      · have hless := hover first hfirst
        omega
      · obtain rfl : e = first := Option.some.inj (he.symm.trans hfirst)
        omega

/-- Of a client that is recorded after a history, whose clock does not go back, the entry shows: the
number of connections that the client opened since its window began, with the action that began it,
all of them in the minute from then on; and when it opened one last.  The windows of an entry, from
the time that it is made until it is removed, begin at least a minute apart. -/
theorem window_accounted (limits : Limits) {actions : List Action}
    (hclock : actions.Pairwise (·.now ≤ ·.now)) {ip : String} {e : Entry}
    (he : ((new true limits).after actions).table.entry? ip = some e) :
    let c := new true limits
    (∃ earlier a later, actions = earlier ++ a :: later ∧
        Begun (c.after earlier) ip e a later) ∧
      (c.admissions ip actions).getLast? = some e.lastSeen ∧
      ∀ earlier between later, actions = earlier ++ between ++ later →
        (c.after earlier).departures ip between = [] →
        ∀ first last, (c.after earlier).table.entry? ip = some first →
          (c.after (earlier ++ between)).table.entry? ip = some last →
          last.windowStart = first.windowStart ∨
            first.windowStart + window ≤ last.windowStart := by
  intro c
  refine ⟨exists_begun limits hclock he, getLast?_admissions limits he, ?_⟩
  intro earlier between later _ hlife first last hfirst hlast
  have h : Regular limits (c.after earlier) := (regular_new limits).after earlier
  rw [after_append] at hlast
  exact h.windowStart_after hfirst hlife hlast

/-- A refused attempt begins the window that the next connection is counted in. -/
theorem window_accounted_of_refusal :
    let actions : List Action := [.attempt "a" 0, .attempt "a" 10, .attempt "a" 60000,
      .release "a" 60001, .attempt "b" 60001, .transfer "b" "a" 60002]
    let c := new true ⟨50, 2, 10⟩
    actions.Pairwise (·.now ≤ ·.now) ∧
      (c.after actions).table.entry? "a" = some ⟨2, 1, 60000, 60002⟩ ∧
      c.beginnings "a" actions = [0, 60000] ∧
      (∃ earlier a later, actions = earlier ++ a :: later ∧
        Begun (c.after earlier) "a" ⟨2, 1, 60000, 60002⟩ a later) ∧
      (c.admissions "a" actions).getLast? = some 60002 := by
  intro actions c
  have hclock : actions.Pairwise (·.now ≤ ·.now) := by decide
  have he : (c.after actions).table.entry? "a" = some ⟨2, 1, 60000, 60002⟩ := by decide
  obtain ⟨hbegun, hlast, -⟩ := window_accounted ⟨50, 2, 10⟩ hclock he
  exact ⟨hclock, he, by decide, hbegun, hlast⟩

end Controller
end Admission
end WebSocket
