import Mathlib.Data.List.Perm.Subperm
import WebSocket.Proofs.Connection.Tenancy
import WebSocket.Proofs.Server.Acceptance
import WebSocket.Proofs.Server.Run

/-
The accounts of a server.  It counts its sessions, each session holds a permit until it is over, and
the table of admission counts the permits that are held.  In whatever order the sessions take their
steps, these three agree (`Scene.Sound`): what a step of a session does to admission is what a
holder of a permit may do (`Connection.Deals`), and a session is counted from the permit it is given
to its end.
-/
namespace WebSocket

/-! ## Permits -/

namespace Admission
namespace Holding

open Controller (Permit)

/-- A controller as a configuration asks for it keeps account of the permits that are held of it,
unless it is switched off and records nothing. -/
def Kept (config : Config) (h : Holding) : Prop :=
  if config.security then h.Consistent (Controller.ofConfig config).limits
  else h.controller = .ofConfig config

variable {config : Config} {h other : Holding}

theorem kept_iff_of_secure (hs : config.security = true) :
    h.Kept config ↔ h.Consistent (Controller.ofConfig config).limits := by
  rw [Kept, if_pos hs]

theorem kept_iff_of_open (hs : config.security = false) :
    h.Kept config ↔ h.controller = .ofConfig config := by
  rw [Kept, hs]
  rfl

theorem kept_start (config : Config) : Kept config ⟨.ofConfig config, []⟩ := by
  cases hs : config.security with
  | true =>
    have hstart : start (Controller.ofConfig config).limits = ⟨.ofConfig config, []⟩ := by
      simp only [start, Controller.ofConfig, hs]
      rfl
    exact (kept_iff_of_secure hs).mpr (hstart ▸ consistent_start _)
  | false => exact (kept_iff_of_open hs).mpr rfl

theorem Kept.perm (hk : h.Kept config) (hcontroller : other.controller = h.controller)
    (hp : h.permits.Perm other.permits) : other.Kept config := by
  cases hs : config.security with
  | true =>
    rw [kept_iff_of_secure hs] at hk ⊢
    exact hk.perm hcontroller hp
  | false =>
    rw [kept_iff_of_open hs] at hk ⊢
    exact hcontroller.trans hk

theorem controller_act_of_disabled (hoff : h.controller.enabled = false) (a : Action) :
    (h.act a).controller = h.controller := by
  have hattempt : ∀ ip now, h.controller.attempt ip now = (.admitted, h.controller) :=
    fun ip now => by rw [Controller.attempt, hoff]; rfl
  have htransfer : ∀ source target now,
      h.controller.transfer source target now = (.admitted, h.controller) :=
    fun source target now => by rw [Controller.transfer, hoff]; rfl
  cases a with
  | acquire ip now => simp only [act, Controller.acquire, hattempt]
  | transfer place target now =>
    simp only [act]
    split
    · simp only [Controller.transferPermit, htransfer]
    · rfl
  | giveBack place =>
    simp only [act]
    split
    · rw [Controller.giveBack, Controller.release, hoff]
      rfl
    · rfl

theorem Kept.act (hk : h.Kept config) (a : Action) : (h.act a).Kept config := by
  cases hs : config.security with
  | true =>
    rw [kept_iff_of_secure hs] at hk ⊢
    exact hk.act a
  | false =>
    rw [kept_iff_of_open hs] at hk ⊢
    have hoff : h.controller.enabled = false := by
      rw [hk]
      exact hs
    exact (controller_act_of_disabled hoff a).trans hk

theorem Kept.after (hk : h.Kept config) (actions : List Action) :
    (h.after actions).Kept config := by
  induction actions generalizing h with
  | nil => exact hk
  | cons a actions ih => exact ih (hk.act a)

theorem Kept.table_eq_empty (hk : h.Kept config) (hnone : h.permits = []) :
    h.controller.table = .empty := by
  cases hs : config.security with
  | true =>
    have haccounts := ((kept_iff_of_secure hs).mp hk).accounts
    rw [ips, hnone] at haccounts
    exact haccounts.eq_empty
  | false =>
    rw [(kept_iff_of_open hs).mp hk]
    rfl

/-- The table counts the permits, within the limit on all of them. -/
theorem Kept.globalCurrent (hk : h.Kept config) (hs : config.security = true) :
    h.controller.table.globalCurrent = h.permits.length ∧
      h.controller.table.globalCurrent ≤ config.maxConnections := by
  have hc := (kept_iff_of_secure hs).mp hk
  have htotal : h.controller.table.globalCurrent = h.permits.length := by
    rw [hc.accounts.total, ips, List.length_map]
  have hlimit := hc.within.total
  rw [ips, List.length_map] at hlimit
  exact ⟨htotal, htotal ▸ hlimit⟩

end Holding
end Admission

/-! ## Connections -/

namespace Connection

open Admission (Holding)
open Admission.Controller (Permit)

/-- From one connection to the other admission and the permit change as a holder may change them,
whatever permits others hold. -/
def Deals (c next : Connection) : Prop :=
  ∃ actions : List Holding.Action, ∀ others : List Permit,
    Holding.after ⟨c.admission, c.permit.toList ++ others⟩ actions =
      ⟨next.admission, next.permit.toList ++ others⟩

/-- A connection has a permit until it is over. -/
def Holds (c : Connection) : Prop :=
  c.permit = none ↔ c.phase = .finished

variable {c d next : Connection} {permit : Permit}

theorem Holds.exists_permit (h : c.Holds) (hp : c.phase ≠ .finished) :
    ∃ permit, c.permit = some permit :=
  Option.ne_none_iff_exists'.mp fun hnone => hp (h.mp hnone)

theorem holds_of_permit (h : c.permit = some permit) (hp : c.phase ≠ .finished) : c.Holds :=
  iff_of_false (by simp [h]) hp

theorem Deals.trans (h : c.Deals d) (h' : d.Deals next) : c.Deals next := by
  obtain ⟨first, hfirst⟩ := h
  obtain ⟨second, hsecond⟩ := h'
  refine ⟨first ++ second, fun others => ?_⟩
  rw [Holding.after, List.foldl_append, ← Holding.after, ← Holding.after, hfirst, hsecond]

theorem deals_of_eq (hadmission : next.admission = c.admission) (hpermit : next.permit = c.permit) :
    c.Deals next :=
  ⟨[], fun others => by rw [hadmission, hpermit]; rfl⟩

theorem Keeps.deals (h : c.Keeps next) : c.Deals next :=
  deals_of_eq h.admission h.permit

theorem deals_finish (h : c.permit = some permit) (verdict : Option Error) :
    c.Deals (c.finish verdict) := by
  obtain ⟨hnone, -, hadmission, -⟩ := finish_of_permit h verdict
  refine ⟨[.giveBack 0], fun others => ?_⟩
  rw [hnone, hadmission, h]
  rfl

theorem Proceeds.deals (h : c.Proceeds next) (hp : c.permit = some permit) :
    c.Deals next ∧ next.Holds := by
  cases h with
  | on keeps unfinished => exact ⟨keeps.deals, holds_of_permit (keeps.permit.trans hp) unfinished⟩
  | @ends last keeps verdict =>
    have hlast : last.permit = some permit := keeps.permit.trans hp
    exact ⟨keeps.deals.trans (deals_finish hlast verdict),
      iff_of_true (finish_of_permit hlast verdict).1 rfl⟩

theorem deals_identified (hp : c.permit = some permit) (head : Bytes) :
    c.Deals (c.identified head).1 ∧ ∃ passed, (c.identified head).1.permit = some passed := by
  rcases identified_of_permit hp head with hkeeps | ⟨target, decision, passed, admission, ht, heq⟩
  · exact ⟨hkeeps.deals, permit, hkeeps.permit.trans hp⟩
  · refine ⟨⟨[.transfer 0 target c.admissionTime], fun others => ?_⟩, passed, by rw [heq]⟩
    rw [heq, hp]
    simp [Holding.after, Holding.act, ht]

theorem deals_conclude (hp : c.permit = some permit) (outcome : Except Error Upgrade.Request) :
    c.Deals (c.conclude outcome) ∧ (c.conclude outcome).Holds := by
  cases outcome with
  | error e => exact (proceeds_reject c e).deals hp
  | ok request =>
    have hconclude : c.conclude (.ok request) = c.accept request := rfl
    rw [hconclude]
    rcases c.accept_cases request with ⟨last, e, hkeeps, heq⟩ | ⟨opened, hkeeps, heq, hphase⟩ <;>
      rw [heq]
    · exact (Proceeds.ends hkeeps (some e)).deals hp
    · have hopened : opened.permit = some permit := hkeeps.permit.trans hp
      have hholds : opened.Holds := holds_of_permit hopened hphase
      exact ⟨deals_of_eq hkeeps.admission hkeeps.permit, hholds⟩

/-- A step of a connection does to admission what the holder of a permit may do. -/
theorem Holds.deals_of_step? (h : c.Holds) (hs : c.step? = some next) :
    c.Deals next ∧ next.Holds := by
  have hunfinished : c.phase ≠ .finished := by
    intro hp
    simp [step?, hp] at hs
  obtain ⟨permit, hp⟩ := h.exists_permit hunfinished
  rcases proceeds_of_step? hs with hproceeds | ⟨deadline, head, codec, -, -, -, rfl⟩
  · exact hproceeds.deals hp
  -- the step that takes up a head passes the permit on, and then gives it back if it refuses
  · obtain ⟨hdeals, passed, hpassed⟩ := deals_identified (c := { c with codec }) hp head
    obtain ⟨hdeals', hholds⟩ :=
      deals_conclude hpassed (Connection.identified { c with codec } head).2
    rw [handshake_eq]
    exact ⟨(deals_of_eq rfl rfl).trans (hdeals.trans hdeals'), hholds⟩

end Connection

/-! ## Sessions -/

/-- The permits that sessions hold. -/
def permitsOf (sessions : List Session) : List Admission.Controller.Permit :=
  sessions.filterMap (·.connection.permit)

theorem permitsOf_cons (s : Session) (rest : List Session) :
    permitsOf (s :: rest) = s.connection.permit.toList ++ permitsOf rest := by
  unfold permitsOf
  cases hp : s.connection.permit <;> simp [hp]

theorem permitsOf_perm {sessions others : List Session} (h : sessions.Perm others) :
    (permitsOf sessions).Perm (permitsOf others) :=
  h.filterMap _

theorem length_permitsOf {sessions : List Session}
    (h : ∀ s ∈ sessions, s.connection.Holds ∧ s.isFinished = false) :
    (permitsOf sessions).length = sessions.length := by
  induction sessions with
  | nil => rfl
  | cons s rest ih =>
    obtain ⟨hholds, hunfinished⟩ := h s List.mem_cons_self
    have hphase : s.connection.phase ≠ .finished := by
      intro hp
      simp [Session.isFinished, Connection.isFinished, hp] at hunfinished
    obtain ⟨permit, hp⟩ := hholds.exists_permit hphase
    rw [permitsOf_cons, hp, List.length_append, ih fun t ht => h t (List.mem_cons_of_mem s ht),
      List.length_cons, Nat.add_comm]
    rfl

namespace Service

open Admission (Holding)

/-- A service counts the sessions, each of which holds a permit until it is over, and the controller
keeps account of these permits. -/
structure Balanced (v : Service) (sessions : List Session) : Prop where
  active : v.active = sessions.length
  kept : Holding.Kept v.config ⟨v.admission, permitsOf sessions⟩
  holds : ∀ s ∈ sessions, s.connection.Holds

variable {v next : Service} {sessions rest others : List Session} {s t : Session}

theorem Balanced.perm (h : v.Balanced sessions) (hp : sessions.Perm others) :
    v.Balanced others where
  active := h.active.trans hp.length_eq
  kept := h.kept.perm rfl (permitsOf_perm hp)
  holds := fun s hs => h.holds s (hp.mem_iff.mpr hs)

/-- One of the sessions has dealt with its permit. -/
theorem Balanced.exchange (h : v.Balanced (s :: rest)) (hactive : next.active = v.active)
    (hconfig : next.config = v.config) (hadmission : next.admission = t.connection.admission)
    {c : Connection} (hc : c.admission = v.admission) (hp : c.permit = s.connection.permit)
    (hdeals : c.Deals t.connection) (hholds : t.connection.Holds) :
    next.Balanced (t :: rest) := by
  obtain ⟨actions, hactions⟩ := hdeals
  -- the session's permit stands first, so that the permits of the others are left alone
  have hbefore : Holding.Kept v.config ⟨c.admission, c.permit.toList ++ permitsOf rest⟩ := by
    refine h.kept.perm hc ?_
    rw [hp, ← permitsOf_cons]
  have hafter := hbefore.after actions
  rw [hactions, ← permitsOf_cons] at hafter
  refine ⟨?_, ?_, fun u hu => ?_⟩
  · rw [hactive, h.active, List.length_cons, List.length_cons]
  · rw [hconfig]
    exact hafter.perm hadmission .rfl
  · rcases List.mem_cons.mp hu with rfl | hrest
    · exact hholds
    · exact h.holds u (List.mem_cons_of_mem s hrest)

theorem Balanced.retire (h : v.Balanced (s :: rest)) (hfinished : s.isFinished = true)
    (hactive : next.active = v.active - 1) (hconfig : next.config = v.config)
    (hadmission : next.admission = v.admission) : next.Balanced rest := by
  have hphase : s.connection.phase = .finished := by
    simpa [Session.isFinished, Connection.isFinished] using hfinished
  have hnone := (h.holds s List.mem_cons_self).mpr hphase
  refine ⟨?_, ?_, fun u hu => h.holds u (List.mem_cons_of_mem s hu)⟩
  · rw [hactive, h.active, List.length_cons, Nat.add_sub_cancel]
  · have hkept := h.kept
    rw [permitsOf_cons, hnone] at hkept
    rw [hconfig]
    exact hkept.perm hadmission .rfl

/-- A connection that admission grants a permit to is given a session. -/
theorem Balanced.welcome (h : v.Balanced sessions) (id : Nat) {now : Nat} {peer : Address}
    {permit : Admission.Controller.Permit} {admission : Admission.Controller}
    (hacquire : v.admission.acquire peer.text now = (.ok permit, admission)) :
    ∃ s, s.socket = id ∧ s.isFinished = false ∧
      ({ v with admission }.welcome id peer permit now).sessions = v.sessions ++ [s] ∧
      ({ v with admission }.welcome id peer permit now).Balanced (s :: sessions) := by
  have hact := h.kept.act (.acquire peer.text now)
  simp only [Holding.act, hacquire] at hact
  refine ⟨_, rfl, rfl, rfl, ?_, hact, fun u hu => ?_⟩
  · show v.active + 1 = sessions.length + 1
    rw [h.active]
  · rcases List.mem_cons.mp hu with rfl | hrest
    · exact iff_of_false (Option.some_ne_none permit) Phase.noConfusion
    · exact h.holds u hrest

/-- A connection that admission refuses changes nothing but what is remembered of attempts. -/
theorem Balanced.refuse (h : v.Balanced sessions) {now : Nat} {peer : Address} {e : Error}
    {admission : Admission.Controller}
    (hacquire : v.admission.acquire peer.text now = (.error e, admission)) :
    Balanced { v with admission } sessions := by
  have hact := h.kept.act (.acquire peer.text now)
  simp only [Holding.act, hacquire] at hact
  exact ⟨h.active, hact, h.holds⟩

/-- A connection that is lost after it was admitted does not change the accounts. -/
theorem Balanced.lose (h : v.Balanced sessions) {now : Nat} {peer : Address}
    {permit : Admission.Controller.Permit} {admission : Admission.Controller}
    (hacquire : v.admission.acquire peer.text now = (.ok permit, admission)) :
    Balanced { v with admission := admission.giveBack permit } sessions := by
  have hact := (h.kept.act (.acquire peer.text now)).act (.giveBack 0)
  simp only [Holding.act, hacquire] at hact
  exact ⟨h.active, hact, h.holds⟩

theorem Balanced.of_nil (h : v.Balanced []) : v.active = 0 ∧ v.admission.table = .empty :=
  ⟨h.active, h.kept.table_eq_empty rfl⟩

/-- As long as no session is over, admission counts them too, within the limit. -/
theorem Balanced.globalCurrent (h : v.Balanced sessions)
    (hopen : ∀ s ∈ sessions, s.isFinished = false) (hs : v.config.security = true) :
    v.admission.table.globalCurrent = v.active ∧ v.active ≤ v.config.maxConnections := by
  obtain ⟨htotal, hlimit⟩ := h.kept.globalCurrent hs
  rw [length_permitsOf fun s hmem => ⟨h.holds s hmem, hopen s hmem⟩, ← h.active] at htotal
  exact ⟨htotal, htotal ▸ hlimit⟩

end Service

theorem Server.connections_of_service {s : Server} {v : Service} (hv : s.service = some v) :
    s.connections = v.active := by
  rw [connections, hv]

/-! ## Scenes -/

namespace Scene

/-- A server that runs is balanced, and one that does not run has no sessions and counts none. -/
structure Sound (w : Scene) : Prop where
  stopped : w.server.service = none → w.server.active = 0 ∧ w.answering = []
  running : ∀ v, w.server.service = some v → v.Balanced w.sessions
  answering : ∀ p ∈ w.answering, p.1.connection.phase ≠ .finished

variable {w next : Scene} {v : Service}

theorem sound_new (config : Config) (system : System) : Sound ⟨.new config, [], system⟩ where
  stopped := fun _ => ⟨rfl, rfl⟩
  running := fun _ h => nomatch h
  answering := List.forall_mem_nil _

theorem sessions_of_service (hv : w.server.service = some v) :
    w.sessions = v.sessions ++ w.answering.map Prod.fst := by
  rw [sessions, Server.sessions, hv]

theorem sound_of_balanced (hv : next.server.service = some v) (hb : v.Balanced next.sessions)
    (ha : ∀ p ∈ next.answering, p.1.connection.phase ≠ .finished) : next.Sound where
  stopped := fun hnone => by rw [hv] at hnone; cases hnone
  running := fun v' hv' => by
    rw [hv] at hv'
    cases hv'
    exact hb
  answering := ha

theorem answering_of_sessions_nil (h : w.sessions = []) : w.answering = [] :=
  List.map_eq_nil_iff.mp (List.append_eq_nil_iff.mp h).2

theorem sessions_of_stopped (h : w.server.service = none) :
    w.sessions = w.answering.map Prod.fst := by
  rw [sessions, Server.sessions, h, List.nil_append]

/-- The accounts of a server that is stopped are not touched by what it is to run with. -/
theorem Sound.configure (h : w.Sound) {change : Server → Server} {server : Server}
    (hs : w.server.configure change = .ok server)
    (hservice : (change w.server).service = w.server.service)
    (hactive : (change w.server).active = w.server.active) : Sound { w with server } := by
  obtain ⟨hnone, rfl⟩ := Server.configure_eq_ok hs
  obtain ⟨hzero, hanswering⟩ := h.stopped hnone
  refine ⟨fun _ => ⟨hactive.trans hzero, hanswering⟩, fun v hv => ?_, h.answering⟩
  rw [hservice, hnone] at hv
  cases hv

theorem sessions_perm {before after : List Session} {s : Session}
    (hv : w.server.service = some v) (hs : v.sessions = before ++ s :: after) :
    w.sessions.Perm (s :: (before ++ after ++ w.answering.map Prod.fst)) := by
  rw [sessions_of_service hv, hs, List.append_assoc, List.cons_append, List.append_assoc]
  exact List.perm_middle

theorem sessions_perm_answering {before after : List (Session × Except Error Upgrade.Request)}
    {s : Session} {outcome : Except Error Upgrade.Request} (hv : w.server.service = some v)
    (ha : w.answering = before ++ (s, outcome) :: after) :
    w.sessions.Perm (s :: (v.sessions ++ (before ++ after).map Prod.fst)) := by
  rw [sessions_of_service hv, ha, List.map_append, List.map_cons, List.map_append,
    ← List.append_assoc, ← List.append_assoc]
  exact List.perm_middle

theorem Sound.start (h : w.Sound) {server : Server} {system : System}
    (hs : w.server.start.run.run w.system = (.ok server, system)) :
    Sound { w with server, system } := by
  obtain ⟨hnone, listener, endpoint, rfl⟩ := Server.start_eq_ok hs
  obtain ⟨hactive, hanswering⟩ := h.stopped hnone
  refine sound_of_balanced rfl ?_ h.answering
  have hsessions : w.answering.map Prod.fst = [] := by rw [hanswering, List.map_nil]
  show Service.Balanced _ ([] ++ w.answering.map Prod.fst)
  rw [hsessions]
  exact ⟨hactive, Admission.Holding.kept_start _, List.forall_mem_nil _⟩

theorem Sound.accept (h : w.Sound) {runtime : Bool} {result : Except Error Bool} {server : Server}
    {system : System} (ha : (w.server.accept runtime).run w.system = ((result, server), system)) :
    Sound { w with server, system } := by
  obtain ⟨rfl, -, -⟩ | ⟨v, socket, id, remote, between, answer, v', hv, -, hid, htake, -, rfl⟩ :=
    Server.accept_cases ha
  · exact ⟨h.stopped, h.running, h.answering⟩
  · have hbalanced := h.running v hv
    rw [sessions_of_service hv] at hbalanced
    obtain ⟨e, admission, hacquire, -, rfl⟩ | ⟨permit, admission, hacquire, ⟨-, rfl, -⟩ |
      ⟨e, failed, -, rfl, -⟩⟩ := Service.takeUp_cases hid htake
    · exact sound_of_balanced rfl (hbalanced.refuse hacquire) h.answering
    · obtain ⟨s, -, -, hsessions, hwelcome⟩ := hbalanced.welcome id hacquire
      refine sound_of_balanced rfl (hwelcome.perm ?_) h.answering
      rw [sessions_of_service (w := Scene.mk _ _ _) rfl, hsessions, List.append_assoc]
      exact List.perm_middle.symm
    · exact sound_of_balanced rfl (hbalanced.lose hacquire) h.answering

/-- One of the sessions goes on, wherever it stands. -/
theorem Sound.exchange (h : w.Sound) {v' : Service} {s : Session} {rest : List Session}
    (t : Session) (c : Connection) (hv : w.server.service = some v)
    (hv' : next.server.service = some v') (hs : w.sessions.Perm (s :: rest))
    (ht : next.sessions.Perm (t :: rest)) (hactive : v'.active = v.active)
    (hconfig : v'.config = v.config) (hadmission : v'.admission = t.connection.admission)
    (hc : c.admission = v.admission) (hp : c.permit = s.connection.permit)
    (hdeals : c.Deals t.connection) (hholds : t.connection.Holds)
    (ha : ∀ p ∈ next.answering, p.1.connection.phase ≠ .finished) : next.Sound := by
  have hbefore := (h.running v hv).perm hs
  have hafter := hbefore.exchange hactive hconfig hadmission hc hp hdeals hholds
  exact sound_of_balanced hv' (hafter.perm ht.symm) ha

theorem Sound.holds (h : w.Sound) {before after : List Session} {s : Session}
    (hv : w.server.service = some v) (hs : v.sessions = before ++ s :: after) :
    s.connection.Holds :=
  (h.running v hv).holds s ((sessions_perm hv hs).mem_iff.mpr List.mem_cons_self)

theorem Sound.identify (h : w.Sound) {before after : List Session} {s : Session} {head : Bytes}
    {codec : Codec} {c : Connection} {outcome : Except Error Upgrade.Request}
    (hv : w.server.service = some v) (hs : v.sessions = before ++ s :: after)
    (hf : (v.refresh w.system.now s.connection).found? = some (head, codec))
    (hi : Connection.identified { v.refresh w.system.now s.connection with codec } head =
      (c, outcome)) :
    Sound { w.serving { v with admission := c.admission, sessions := before ++ after } with
      answering := ({ s with connection := c }, outcome) :: w.answering } := by
  obtain ⟨⟨deadline, hphase⟩, -, -⟩ := Connection.found?_eq_some_iff.mp hf
  have hready : Connection.Holds (v.refresh w.system.now s.connection) := h.holds hv hs
  obtain ⟨permit, hp⟩ := hready.exists_permit (by rw [hphase]; exact Phase.noConfusion)
  have hsame :=
    Connection.phase_identified { v.refresh w.system.now s.connection with codec } head
  obtain ⟨hdeals, passed, hpassed⟩ :=
    Connection.deals_identified (c := { v.refresh w.system.now s.connection with codec }) hp head
  rw [hi] at hsame hdeals hpassed
  -- between the halves of the step the session still awaits its head, so it must hold a permit
  have hunfinished : c.phase ≠ .finished := by
    rw [hsame.trans hphase]
    exact Phase.noConfusion
  exact h.exchange { s with connection := c }
    { v.refresh w.system.now s.connection with codec } hv rfl (sessions_perm hv hs)
    List.perm_middle rfl rfl rfl rfl rfl hdeals (Connection.holds_of_permit hpassed hunfinished)
    (List.forall_mem_cons.mpr ⟨hunfinished, h.answering⟩)

theorem Sound.conclude (h : w.Sound) {before after : List (Session × Except Error Upgrade.Request)}
    {s : Session} {outcome : Except Error Upgrade.Request} {c : Connection}
    (hv : w.server.service = some v) (ha : w.answering = before ++ (s, outcome) :: after)
    (writeFailure : Option IoFailure)
    (hc : Connection.conclude { v.refresh w.system.now s.connection with writeFailure } outcome =
      c) :
    Sound { w.serving { v with
        admission := c.admission
        sessions := v.sessions ++ [{ s with connection := c }] } with
      answering := before ++ after } := by
  have hperm := sessions_perm_answering hv ha
  have hready : Connection.Holds { v.refresh w.system.now s.connection with writeFailure } :=
    (h.running v hv).holds s (hperm.mem_iff.mpr List.mem_cons_self)
  have hunfinished : s.connection.phase ≠ .finished :=
    h.answering (s, outcome) (ha ▸ List.mem_append_right before List.mem_cons_self)
  obtain ⟨permit, hp⟩ := hready.exists_permit hunfinished
  obtain ⟨hdeals, hafter⟩ := Connection.deals_conclude hp outcome
  rw [hc] at hdeals hafter
  refine h.exchange { s with connection := c }
    { v.refresh w.system.now s.connection with writeFailure } hv rfl hperm ?_ rfl rfl rfl
    rfl rfl hdeals hafter fun p hmem => h.answering p ?_
  · rw [sessions_of_service (w := Scene.mk _ _ _) rfl, List.append_assoc]
    exact List.perm_middle
  · rw [ha]
    exact List.perm_middle.symm.subset (List.mem_cons_of_mem _ hmem)

/-- Everything that can happen keeps the accounts. -/
theorem Sound.step (h : w.Sound) (hs : w.Step next) : next.Sound := by
  cases hs with
  | outside system => exact ⟨h.stopped, h.running, h.answering⟩
  | hear calls => exact ⟨h.stopped, h.running, h.answering⟩
  | setConfig hs | setHandler hs | register hs => exact h.configure hs rfl rfl
  | start hs => exact h.start hs
  | accept hs => exact h.accept hs
  | @receive v before after s hv hs failures data ended =>
    have hholds : s.connection.Holds := h.holds hv hs
    exact h.exchange
      (Session.take { s with connection := v.refresh w.system.now s.connection } failures data ended)
      (v.refresh w.system.now s.connection) hv rfl (sessions_perm hv hs) (sessions_perm rfl rfl)
      rfl rfl rfl rfl rfl (Connection.deals_of_eq rfl rfl) hholds h.answering
  | @step v before after s c hv hs writeFailure application hstep =>
    have hready : Connection.Holds
        { v.refresh w.system.now s.connection with writeFailure, application } := h.holds hv hs
    obtain ⟨hdeals, hafter⟩ := hready.deals_of_step? hstep
    exact h.exchange { s with connection := c }
      { v.refresh w.system.now s.connection with writeFailure, application } hv rfl
      (sessions_perm hv hs) (sessions_perm rfl rfl) rfl rfl rfl rfl rfl hdeals hafter h.answering
  | identify hv hs hf hi => exact h.identify hv hs hf hi
  | conclude hv ha writeFailure hc => exact h.conclude hv ha writeFailure hc
  | @retire v before after s hv hs hfinished =>
    refine sound_of_balanced rfl ?_ h.answering
    exact ((h.running v hv).perm (sessions_perm hv hs)).retire hfinished rfl rfl rfl
  | @order v hv =>
    have hbalanced := h.running v hv
    rw [sessions_of_service hv] at hbalanced
    exact sound_of_balanced rfl ⟨hbalanced.active, hbalanced.kept, hbalanced.holds⟩ h.answering
  | @leave v hv hstopping hover =>
    have hbalanced := h.running v hv
    rw [hover] at hbalanced
    have hactive : w.server.connections = 0 := by
      rw [Server.connections_of_service hv, hbalanced.of_nil.1]
    have hanswering := answering_of_sessions_nil hover
    refine ⟨fun _ => ⟨hactive, hanswering⟩, fun v' hv' => ?_, h.answering⟩
    cases hv'

/-- The accounts agree however a server is used. -/
theorem Sound.reaches (h : w.Sound) (hr : w.Reaches next) : next.Sound := by
  induction hr with
  | refl => exact h
  | tail _ hs ih => exact ih.step hs

theorem Sound.of_reaches_new {config : Config} {system : System}
    (hr : Reaches ⟨.new config, [], system⟩ w) : w.Sound :=
  (sound_new config system).reaches hr

end Scene
end WebSocket
