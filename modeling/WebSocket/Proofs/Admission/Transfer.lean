import WebSocket.Proofs.Admission.Entries

/-
What a transfer leaves behind.  One that is admitted comes to the same as two calls, in which the
source gives its connection back first and the target asks for one then
(`Controller.transfer_eq_release_attempt`).  It makes them in the other order, so that the source
keeps its connection when the target is refused: the entries of two clients can be set in either
order, and the limit on all connections is tested without the one that is about to be given back.

One that is refused leaves the table as it was, except for the window of the target.  If that is
over, the refusal begins a new one (`Controller.transfer_refused`).
-/
namespace WebSocket
namespace Admission

namespace Entry

theorem decide_ne_rejectedGlobal (e : Entry) (limits : Limits) :
    e.decide limits ≠ .rejectedGlobal := by
  unfold decide
  split
  · exact Decision.noConfusion
  · split <;> exact Decision.noConfusion

end Entry

namespace Table

variable {source target ip : String} {t : Table} {e : Entry} {now inUse : Nat} {limits : Limits}

/-! ## Entries -/

theorem assign_self {entries : List (String × Entry)} (h : lookup ip entries = some e) :
    assign ip e entries = entries := by
  induction entries with
  | nil => cases h
  | cons entry entries ih =>
    obtain ⟨known, old⟩ := entry
    rw [lookup] at h
    by_cases hk : known = ip
    · rw [if_pos hk] at h
      rw [assign, if_pos hk, Option.some.inj h]
    · rw [if_neg hk] at h
      rw [assign, if_neg hk, ih h]

theorem assign_assign_comm (hne : source ≠ target) (e f : Entry) {entries : List (String × Entry)}
    (hm : source ∈ clients entries) :
    assign source f (assign target e entries) = assign target e (assign source f entries) := by
  induction entries with
  | nil => cases hm
  | cons entry entries ih =>
    obtain ⟨known, old⟩ := entry
    by_cases hs : known = source
    · have ht : known ≠ target := fun ht => hne (hs.symm.trans ht)
      simp only [assign, hs, if_true, hs ▸ ht, if_false]
    · by_cases ht : known = target
      · simp only [assign, ht, if_true, ht ▸ hs, if_false]
      · have hrest : source ∈ clients entries :=
          (List.mem_cons.mp hm).resolve_left (Ne.symm hs)
        simp only [assign, hs, ht, if_false, ih hrest]

theorem discard_assign_comm (hne : source ≠ target) (e : Entry)
    (entries : List (String × Entry)) :
    discard source (assign target e entries) = assign target e (discard source entries) := by
  induction entries with
  | nil => simp only [assign, discard, Ne.symm hne, if_false]
  | cons entry entries ih =>
    obtain ⟨known, old⟩ := entry
    by_cases hs : known = source
    · have ht : known ≠ target := fun ht => hne (hs.symm.trans ht)
      simp only [assign, discard, hs, if_true, hs ▸ ht, if_false]
    · by_cases ht : known = target
      · simp only [assign, discard, ht, if_true, ht ▸ hs, if_false]
      · simp only [assign, discard, hs, ht, if_false, ih]

/-! ## Attempts that are admitted -/

theorem attempt_fst (t : Table) (ip : String) (now inUse : Nat) (limits : Limits) :
    (t.attempt ip now inUse limits).1 =
      if limits.maxConnections ≤ inUse then .rejectedGlobal
      else (t.judged ip now).decide limits := by
  rcases t.attempt_cases ip now inUse limits with ⟨hfull, ha⟩ | ⟨hroom, -, ha⟩ | ⟨hroom, hd, ha⟩
  · rw [ha, if_pos hfull]
  · rw [ha, if_neg (Nat.not_le_of_lt hroom)]
  · rw [ha, if_neg (Nat.not_le_of_lt hroom), hd]

theorem attempt_snd_of_admitted (hd : (t.attempt ip now inUse limits).1 = .admitted) :
    (t.attempt ip now inUse limits).2 =
      { entries := assign ip ((t.judged ip now).count now) t.entries
        globalCurrent := t.globalCurrent + 1 } := by
  rcases t.attempt_cases ip now inUse limits with ⟨-, ha⟩ | ⟨-, hn, ha⟩ | ⟨-, -, ha⟩
  · rw [ha] at hd
    cases hd
  · rw [ha] at hd
    exact absurd hd hn
  · rw [ha]
    rfl

/-- A client is judged by its own entry. -/
theorem judged_release (hne : source ≠ target) (t : Table) (now : Nat) :
    Table.judged (t.release source) target now = t.judged target now := by
  rw [judged, judged, entry?_release_of_ne hne]

theorem attempt_release_fst (hne : source ≠ target) (t : Table) (now inUse : Nat)
    (limits : Limits) :
    (Table.attempt (t.release source) target now inUse limits).1 =
      (t.attempt target now inUse limits).1 := by
  rw [attempt_fst, attempt_fst, judged_release hne]

/-- The connection of one client can be given back before another client is admitted, or after. -/
theorem release_attempt_comm (hne : source ≠ target) (he : t.entry? source = some e)
    (hheld : 1 ≤ t.globalCurrent) (hd : (t.attempt target now inUse limits).1 = .admitted) :
    Table.release (t.attempt target now inUse limits).2 source =
      (Table.attempt (t.release source) target now inUse limits).2 := by
  have hfirst : (Table.attempt (t.release source) target now inUse limits).1 = .admitted :=
    (attempt_release_fst hne ..).trans hd
  have hsource : Table.entry? (t.attempt target now inUse limits).2 source = some e :=
    (entry?_attempt_of_ne (Ne.symm hne) ..).trans he
  have hm : source ∈ clients t.entries := by
    refine by_contra fun hn => ?_
    unfold entry? at he
    rw [lookup_eq_none_iff.mpr hn] at he
    cases he
  have hcount : t.globalCurrent + 1 - 1 = t.globalCurrent - 1 + 1 := by omega
  rw [release_of_some hsource, attempt_snd_of_admitted hd, attempt_snd_of_admitted hfirst,
    judged_release hne, release_of_some he, hcount]
  by_cases hlast : e.current - 1 = 0
  · rw [if_pos hlast, if_pos hlast, discard_assign_comm hne]
  · rw [if_neg hlast, if_neg hlast, assign_assign_comm hne _ _ hm]

/-! ## Attempts that are refused -/

/-- A refusal leaves the table as it is, unless it begins a new window of the client. -/
theorem attempt_refused_cases (hd : (t.attempt ip now inUse limits).1 ≠ .admitted) :
    (((t.attempt ip now inUse limits).1 = .rejectedGlobal ∨
        ∀ e, t.entry? ip = some e → now < e.windowStart + window) ∧
      (t.attempt ip now inUse limits).2 = t) ∨
    ∃ e, (t.attempt ip now inUse limits).1 ≠ .rejectedGlobal ∧ t.entry? ip = some e ∧
      e.windowStart + window ≤ now ∧
      (t.attempt ip now inUse limits).2 =
        t.put ip { e with minuteCount := 0, windowStart := now } := by
  rcases t.attempt_cases ip now inUse limits with ⟨-, ha⟩ | ⟨-, -, ha⟩ | ⟨-, -, ha⟩
  · rw [ha]
    exact .inl ⟨.inl rfl, rfl⟩
  · rw [ha]
    cases he : t.entry? ip with
    | none =>
      refine .inl ⟨.inr fun f hf => ?_, rfl⟩
      cases hf
    | some e =>
      have hjudged : t.judged ip now = e.roll now := by rw [judged, he, Option.getD_some]
      rw [hjudged]
      by_cases hover : e.windowStart + window ≤ now
      · refine .inr ⟨e, Entry.decide_ne_rejectedGlobal _ _, rfl, hover, ?_⟩
        rw [Option.isSome_some, if_pos rfl, Entry.roll_of_over hover]
      · have hopen : now < e.windowStart + window := Nat.lt_of_not_le hover
        refine .inl ⟨.inr fun f hf => Option.some.inj hf ▸ hopen, ?_⟩
        show Table.put t ip (e.roll now) = t
        rw [Entry.roll_of_open hopen, put, assign_self he]
  · rw [ha] at hd
    exact absurd rfl hd

end Table

namespace Controller

variable {limits : Limits} {c : Controller} {source target : String} {now : Nat}

/-- Once a connection has been given back, the next attempt is tested with one less in use. -/
theorem attempt_of_release (h : c.enabled = true) {e : Entry}
    (he : c.table.entry? source = some e) (target : String) (now : Nat) :
    (c.release source).attempt target now =
      let inUse := c.table.globalCurrent - 1
      let r := Table.attempt (c.table.release source) target now inUse c.limits
      (r.1, { c with table := r.2 }) := by
  have hinUse : Table.globalCurrent (c.table.release source) = c.table.globalCurrent - 1 := by
    rw [Table.release_of_some he]
  have henabled : (c.release source).enabled = true := by
    rw [release_of_enabled h]
    exact h
  rw [attempt_of_enabled henabled, release_of_enabled h]
  simp only [hinUse]

/-- To pass a connection on is to give it back and to ask for one in the name of the target: the
answer is the same, and so is the table when the target is admitted.  Then the number of all
connections and the entries of all other clients are as before. -/
theorem transfer_eq_release_attempt (limits : Limits) (actions : List Action)
    {source target : String} (hne : source ≠ target) (now : Nat)
    (hsource : ((new true limits).after actions).table.entry? source |>.isSome) :
    let c := (new true limits).after actions
    let apart := (c.release source).attempt target now
    let passed := c.transfer source target now
    passed.1 = apart.1 ∧
      (passed.1 = .admitted → passed.2 = apart.2 ∧
        passed.2.table.globalCurrent = c.table.globalCurrent ∧
        ∀ ip, ip ≠ source → ip ≠ target → passed.2.table.entry? ip = c.table.entry? ip) := by
  intro c apart passed
  have h : Regular limits c := (regular_new limits).after actions
  obtain ⟨held, haccounts⟩ := h.accounts
  obtain ⟨e, he⟩ := Option.isSome_iff_exists.mp hsource
  have hheld : 1 ≤ c.table.globalCurrent := (haccounts.le_of_entry? he).2
  have hapart := attempt_of_release h.enabled he target now
  have hpassed := transfer_of_ne h.enabled hne now
  -- both ways test the limit on all connections with one less in use, so they answer alike
  have hfst := Table.attempt_release_fst hne c.table now (c.table.globalCurrent - 1) c.limits
  simp only [apart, passed, hapart, hpassed]
  refine ⟨hfst.symm, fun hd => ?_⟩
  have hcomm := Table.release_attempt_comm hne he hheld hd
  rw [if_pos hd, hcomm]
  refine ⟨rfl, ?_, fun ip hs ht => ?_⟩
  · have hcount := Table.attempt_snd_of_admitted (hfst.trans hd)
    rw [hcount, Table.release_of_some he]
    exact Nat.sub_add_cancel hheld
  · rw [Table.entry?_attempt_of_ne (Ne.symm ht), Table.entry?_release_of_ne (Ne.symm hs)]

/-- The only connection of a client is passed on at the limit on all connections, to a client whose
window is over. -/
theorem transfer_eq_release_attempt_at_limit :
    let c := (new true ⟨2, 5, 1⟩).after [.attempt "proxy" 0, .attempt "x" 0]
    let passed := c.transfer "proxy" "x" 60000
    "proxy" ≠ "x" ∧ (Option.isSome <| c.table.entry? "proxy") ∧ passed.1 = .admitted ∧
      passed.1 = ((c.release "proxy").attempt "x" 60000).1 ∧
      passed.2 = ((c.release "proxy").attempt "x" 60000).2 ∧
      passed.2.table.globalCurrent = 2 := by
  have hne : "proxy" ≠ "x" := by decide
  have hall := transfer_eq_release_attempt ⟨2, 5, 1⟩ [.attempt "proxy" 0, .attempt "x" 0] hne 60000
    (by decide)
  obtain ⟨hanswer, hafter⟩ := hall
  obtain ⟨htable, hcount, -⟩ := hafter (by decide)
  exact ⟨hne, by decide, by decide, hanswer, htable, hcount⟩

/-- A transfer that is refused is an attempt of the target that is refused. -/
theorem transfer_of_refused (h : c.enabled = true)
    (hd : (c.transfer source target now).1 ≠ .admitted) :
    let r := c.table.attempt target now (c.table.globalCurrent - 1) c.limits
    r.1 ≠ .admitted ∧ c.transfer source target now = (r.1, { c with table := r.2 }) := by
  intro r
  have hne : source ≠ target := by
    rintro rfl
    rw [transfer_self] at hd
    exact hd rfl
  have htransfer := transfer_of_ne h hne now
  have hr : r.1 ≠ .admitted := by
    rw [htransfer] at hd
    exact hd
  refine ⟨hr, htransfer.trans ?_⟩
  simp only [r, if_neg hr]

/-- A transfer that is refused leaves the number of all connections and the entries of all clients
but the target as they were.  The entry of the target begins a new window if its old one is over
and the limits on the target refuse it; in every other case the table is as it was. -/
theorem transfer_refused (limits : Limits) (actions : List Action) {source target : String}
    {now : Nat}
    (hd : (((new true limits).after actions).transfer source target now).1 ≠ .admitted) :
    let c := (new true limits).after actions
    let refused := c.transfer source target now
    (refused.2.table = c.table ↔ refused.1 = .rejectedGlobal ∨
        ∀ e, c.table.entry? target = some e → now < e.windowStart + window) ∧
      refused.2.table.globalCurrent = c.table.globalCurrent ∧
      (∀ ip, ip ≠ target → refused.2.table.entry? ip = c.table.entry? ip) ∧
      ∀ e, c.table.entry? target = some e → refused.2.table.entry? target = some
        (if refused.1 ≠ .rejectedGlobal ∧ e.windowStart + window ≤ now then
          { e with minuteCount := 0, windowStart := now }
        else e) := by
  intro c refused
  have h : Regular limits c := (regular_new limits).after actions
  obtain ⟨hr, htransfer⟩ := transfer_of_refused h.enabled hd
  simp only [refused, htransfer]
  rcases Table.attempt_refused_cases hr with ⟨hkept, hsame⟩ | ⟨e, hanswer, he, hover, hbegun⟩
  · rw [hsame]
    refine ⟨iff_of_true rfl hkept, rfl, fun _ _ => rfl, fun e he => ?_⟩
    rw [if_neg]
    · exact he
    · rintro ⟨hanswer, hover⟩
      exact absurd hover (Nat.not_le_of_lt (hkept.resolve_left hanswer e he))
  · rw [hbegun]
    refine ⟨iff_of_false (fun hsame => ?_) ?_, rfl, fun ip hip => ?_, fun f hf => ?_⟩
    · -- the new window is not the old one
      have hentry := c.table.entry?_put target target
        { e with minuteCount := 0, windowStart := now }
      rw [hsame, if_pos rfl, he] at hentry
      have hstart : e.windowStart = now := congrArg Entry.windowStart (Option.some.inj hentry)
      have hpos : 0 < window := by decide
      omega
    · rintro (hglobal | hopen)
      · exact hanswer hglobal
      · exact absurd hover (Nat.not_le_of_lt (hopen e he))
    · exact (Table.entry?_put ..).trans (if_neg (Ne.symm hip))
    · obtain rfl : e = f := Option.some.inj (he.symm.trans hf)
      rw [if_pos ⟨hanswer, hover⟩]
      exact (Table.entry?_put ..).trans (if_pos rfl)

/-- A client that holds as many connections as it may is refused one more, and its count for the
last minute is gone. -/
theorem transfer_refused_of_over :
    let c := (new true ⟨50, 1, 10⟩).after [.attempt "a" 0, .attempt "b" 0]
    let refused := c.transfer "a" "b" 60000
    refused.1 ≠ .admitted ∧ refused.2.table ≠ c.table ∧
      refused.2.table.entry? "a" = c.table.entry? "a" ∧
      refused.2.table.entry? "b" = some ⟨1, 0, 60000, 0⟩ := by
  have hd : (((new true ⟨50, 1, 10⟩).after [.attempt "a" 0, .attempt "b" 0]).transfer
      "a" "b" 60000).1 ≠ .admitted := by decide
  obtain ⟨hsame, -, hothers, htarget⟩ := transfer_refused ⟨50, 1, 10⟩
    [.attempt "a" 0, .attempt "b" 0] hd
  refine ⟨hd, fun heq => ?_, hothers "a" (by decide), htarget ⟨1, 1, 0, 0⟩ (by decide)⟩
  rcases hsame.mp heq with hglobal | hopen
  · revert hglobal
    decide
  · exact absurd (hopen ⟨1, 1, 0, 0⟩ (by decide)) (by decide)

/-- A refused transfer does not leave everything as it was. -/
theorem not_forall_transfer_refused_eq :
    ¬ ∀ (limits : Limits) (actions : List Action) (source target : String) (now : Nat),
      let c := (new true limits).after actions
      (c.transfer source target now).1 ≠ .admitted →
        (c.transfer source target now).2.table = c.table := by
  intro h
  have hsame := h ⟨50, 1, 10⟩ [.attempt "a" 0, .attempt "b" 0] "a" "b" 60000 (by decide)
  revert hsame
  decide

end Controller
end Admission
end WebSocket
