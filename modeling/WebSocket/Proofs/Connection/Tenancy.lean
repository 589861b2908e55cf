import WebSocket.Proofs.Admission.Accounting
import WebSocket.Proofs.Connection.Tenure

/-
A connection holds one permit for as long as it lasts, and the permit is its client's.  The permit
it was accepted under is the peer's; identifying the client may pass it on, and when that is refused
permit and client stay as they were.  The end gives the permit back, once and before the
application is told, whichever way it comes about.  Other holders may act at any time; the
controller accounts for their permits and that of the connection together (`Tenancy.held_after`).
-/
namespace WebSocket
namespace Admission
namespace Holding

open Controller (Permit)

variable {limits : Limits}

/-! ## Others -/

theorem Consistent.perm {h other : Holding} (hc : Consistent limits h)
    (hcontroller : other.controller = h.controller) (hp : h.permits.Perm other.permits) :
    Consistent limits other := by
  have hips : h.ips.Perm other.ips := hp.map Permit.ip
  refine ⟨?_, ?_, ?_, hc.within.perm hips⟩
  · rw [hcontroller]
    exact hc.enabled
  · rw [hcontroller]
    exact hc.limits_eq
  · rw [hcontroller]
    exact hc.accounts.perm hips

theorem Consistent.passed {controller next : Controller} {permit passed : Permit}
    {others : List Permit} (hc : Consistent limits ⟨controller, permit :: others⟩)
    {target : String} {now : Nat} {decision : Decision}
    (h : controller.transferPermit permit target now = (decision, passed, next)) :
    Consistent limits ⟨next, passed :: others⟩ := by
  have hact := hc.transfer 0 target now
  simp only [Holding.act, List.getElem?_cons_zero, h, List.set_cons_zero] at hact
  exact hact

/-- What is done with some permits leaves one that is held beside them in the account. -/
theorem Consistent.act_beside {h : Holding} {permit : Permit}
    (hc : Consistent limits { h with permits := permit :: h.permits }) (action : Action) :
    Consistent limits { h.act action with permits := permit :: (h.act action).permits } := by
  cases action with
  | acquire ip now =>
    have hact := hc.acquire ip now
    simp only [Holding.act] at hact ⊢
    rcases hacquire : h.controller.acquire ip now with ⟨_ | taken, next⟩
    · simp only [hacquire] at hact ⊢
      exact hact
    · simp only [hacquire] at hact ⊢
      exact hact.perm rfl (List.Perm.swap ..)
  | transfer place target now =>
    have hact := hc.transfer (place + 1) target now
    simp only [Holding.act, List.getElem?_cons_succ] at hact ⊢
    cases hpermit : h.permits[place]? <;> simp only [hpermit] at hact ⊢ <;> exact hact
  | giveBack place =>
    have hact := hc.giveBack (place + 1)
    simp only [Holding.act, List.getElem?_cons_succ] at hact ⊢
    cases hpermit : h.permits[place]? <;> simp only [hpermit] at hact ⊢ <;> exact hact

end Holding
end Admission

namespace Connection

/-! ## The connection -/

/-- A connection that has not ended holds one permit, which is its client's; it has given none back
and has not taken leave. -/
structure Tenant (c : Connection) : Prop where
  permit : c.permit = some ⟨c.client⟩
  kept : releasesOf c.effects = []
  staying : ∀ client, .call (.disconnect client) ∉ c.effects

/-- A connection that has ended holds no permit; it has given one back, that of its client, and took
leave only after that. -/
structure Departed (c : Connection) : Prop where
  permit : c.permit = none
  released : releasesOf c.effects = [c.client]
  inOrder : ∃ before after, c.effects = before ++ .release c.client :: after ∧
    ∀ client, .call (.disconnect client) ∉ before

/-- The client is the peer, or the one that the peer's permit was passed on to. -/
def Addressed (peer : Address) (c : Connection) : Prop :=
  (transfersOf c.effects = [] ∧ c.client = peer.text) ∨
    ∃ target decision, transfersOf c.effects = [(peer.text, target, decision)] ∧
      c.client = if decision = .admitted then target else peer.text

variable {c next : Connection} {peer : Address}

theorem releasesOf_plain {new : List Effect} (h : ∀ e ∈ new, e.IsPlain) : releasesOf new = [] := by
  refine List.filterMap_eq_nil_iff.mpr fun e he => ?_
  have hplain := h e he
  cases e with
  | release ip => exact absurd hplain id
  | _ => rfl

theorem transfersOf_plain {new : List Effect} (h : ∀ e ∈ new, e.IsPlain) :
    transfersOf new = [] := by
  refine List.filterMap_eq_nil_iff.mpr fun e he => ?_
  have hplain := h e he
  cases e with
  | transfer source target decision => exact absurd hplain id
  | _ => rfl

theorem releasesOf_append (effects new : List Effect) :
    releasesOf (effects ++ new) = releasesOf effects ++ releasesOf new :=
  List.filterMap_append

theorem transfersOf_append (effects new : List Effect) :
    transfersOf (effects ++ new) = transfersOf effects ++ transfersOf new :=
  List.filterMap_append

theorem disconnect_notMem_plain {new : List Effect} (h : ∀ e ∈ new, e.IsPlain) (client : String) :
    .call (.disconnect client) ∉ new :=
  fun hmem => h _ hmem

theorem Keeps.effects (h : c.Keeps next) :
    ∃ new, next.effects = c.effects ++ new ∧ ∀ e ∈ new, e.IsPlain := by
  obtain ⟨new, hlog, hplain⟩ := h.log
  refine ⟨new.reverse, ?_, fun e he => hplain e (List.mem_reverse.mp he)⟩
  rw [Connection.effects, hlog, List.reverse_append]
  rfl

theorem Keeps.transfersOf_effects (h : c.Keeps next) :
    transfersOf next.effects = transfersOf c.effects := by
  obtain ⟨new, heffects, hplain⟩ := h.effects
  rw [heffects, transfersOf_append, transfersOf_plain hplain, List.append_nil]

/-- What does not touch the permit leaves a tenant one. -/
theorem Tenant.keeps (h : c.Tenant) (hk : c.Keeps next) : next.Tenant := by
  obtain ⟨new, heffects, hplain⟩ := hk.effects
  refine ⟨?_, ?_, fun client hmem => ?_⟩
  · rw [hk.permit, hk.client]
    exact h.permit
  · rw [heffects, releasesOf_append, releasesOf_plain hplain, h.kept]
    rfl
  · rw [heffects, List.mem_append] at hmem
    exact hmem.elim (h.staying client) (disconnect_notMem_plain hplain client)

/-- A tenant that ends departs in order, and as the same client. -/
theorem Tenant.finish (h : c.Tenant) (verdict : Option Error) :
    (c.finish verdict).Departed ∧
      transfersOf (c.finish verdict).effects = transfersOf c.effects := by
  obtain ⟨hpermit, hclient, -, farewell, new, hlog, hplain, hfarewell⟩ :=
    finish_of_permit h.permit verdict
  have hplain' : ∀ e ∈ new.reverse, e.IsPlain := fun e he => hplain e (List.mem_reverse.mp he)
  have heffects : (c.finish verdict).effects =
      (c.effects ++ new.reverse) ++ .release c.client :: farewell.reverse := by
    rw [effects, hlog]
    simp [effects]
  have hquiet : releasesOf farewell.reverse = [] ∧ transfersOf farewell.reverse = [] := by
    rcases hfarewell with rfl | ⟨_, rfl⟩ <;> exact ⟨rfl, rfl⟩
  refine ⟨⟨hpermit, ?_, c.effects ++ new.reverse, farewell.reverse, ?_, fun client hmem => ?_⟩, ?_⟩
  · rw [heffects, releasesOf_append, releasesOf_append, releasesOf_plain hplain', h.kept, hclient]
    show c.client :: releasesOf farewell.reverse = [c.client]
    rw [hquiet.1]
  · rw [heffects, hclient]
  · exact (List.mem_append.mp hmem).elim (h.staying client) (disconnect_notMem_plain hplain' client)
  · rw [heffects, transfersOf_append, transfersOf_append, transfersOf_plain hplain', List.append_nil]
    show transfersOf c.effects ++ transfersOf farewell.reverse = transfersOf c.effects
    rw [hquiet.2, List.append_nil]

theorem Addressed.of_eq (h : c.Addressed peer) (hclient : next.client = c.client)
    (heffects : transfersOf next.effects = transfersOf c.effects) : next.Addressed peer := by
  unfold Addressed at h ⊢
  rw [hclient, heffects]
  exact h

end Connection

/-! ## Tenancies -/

namespace Tenancy

open Admission (Holding)
open Admission.Controller (Permit)

/-- The connection of a tenancy holds its permit until it ends, and the controller accounts for all
the permits. -/
structure Sound (limits : Admission.Limits) (peer : Address) (t : Tenancy) : Prop where
  consistent : t.holding.Consistent limits
  addressed : t.connection.Addressed peer
  tenant : t.connection.phase ≠ .finished → t.connection.Tenant
  departed : t.connection.phase = .finished → t.connection.Departed
  unmoved : t.pending = none → 3 ≤ t.connection.phase.rank →
    Connection.transfersOf t.connection.effects = []
  unfinished : t.pending ≠ none → t.connection.phase ≠ .finished

variable {limits : Admission.Limits} {peer : Address} {t u : Tenancy} {next : Connection}

/-- What happens outside leaves a tenancy sound, if the controller still accounts for it. -/
theorem Sound.of_sameInside (h : t.Sound limits peer) (hin : u.connection.SameInside t.connection)
    (hpending : u.pending = t.pending) (hc : u.holding.Consistent limits) :
    u.Sound limits peer := by
  have heffects : u.connection.effects = t.connection.effects := congrArg List.reverse hin.log
  refine ⟨hc, h.addressed.of_eq hin.client (by rw [heffects]), fun hp => ?_, fun hp => ?_,
    fun hn hrank => ?_, fun hn => ?_⟩
  · have ht := h.tenant (hin.phase ▸ hp)
    refine ⟨?_, heffects ▸ ht.kept, heffects ▸ ht.staying⟩
    rw [hin.permit, hin.client]
    exact ht.permit
  · have hd := h.departed (hin.phase ▸ hp)
    refine ⟨hin.permit.trans hd.permit, ?_, ?_⟩
    · rw [heffects, hin.client]
      exact hd.released
    · rw [heffects, hin.client]
      exact hd.inOrder
  · rw [heffects]
    exact h.unmoved (hpending ▸ hn) (hin.phase ▸ hrank)
  · rw [hin.phase]
    exact h.unfinished (hpending ▸ hn)

/-- A connection that goes on keeps its permit, and one that ends gives it back. -/
theorem Sound.proceeds (h : t.Sound limits peer) (hunfinished : t.connection.phase ≠ .finished)
    (hp : t.connection.Proceeds next)
    (hrank : 3 ≤ next.phase.rank → Connection.transfersOf t.connection.effects = []) :
    Sound limits peer ⟨next, none, t.others⟩ := by
  have ht := h.tenant hunfinished
  cases hp with
  | on keeps unfinished =>
    refine ⟨?_, h.addressed.of_eq keeps.client keeps.transfersOf_effects, fun _ => ht.keeps keeps,
      fun hfinished => absurd hfinished unfinished, fun _ hr => ?_, fun hn => absurd rfl hn⟩
    · show Holding.Consistent limits ⟨next.admission, next.permit.toList ++ t.others⟩
      rw [keeps.admission, keeps.permit]
      exact h.consistent
    · rw [keeps.transfersOf_effects]
      exact hrank hr
  | @ends last keeps verdict =>
    have hlast := ht.keeps keeps
    obtain ⟨hdeparted, htransfers⟩ := hlast.finish verdict
    obtain ⟨hnone, hclient, hadmission, -⟩ := Connection.finish_of_permit hlast.permit verdict
    refine ⟨?_, ?_, fun hp => absurd rfl hp, fun _ => hdeparted, fun _ hr => ?_,
      fun hn => absurd rfl hn⟩
    · have hconsistent := h.consistent
      rw [holding, ← keeps.admission, ← keeps.permit, hlast.permit] at hconsistent
      show Holding.Consistent limits
        ⟨(last.finish verdict).admission, (last.finish verdict).permit.toList ++ t.others⟩
      rw [hnone, hadmission]
      exact hconsistent.giveBack 0
    · exact h.addressed.of_eq (hclient.trans keeps.client)
        (htransfers.trans keeps.transfersOf_effects)
    · simp at hr

/-- The answer to a request. -/
theorem Sound.conclude (h : t.Sound limits peer) {outcome : Except Error Upgrade.Request}
    (hpending : t.pending = some outcome) :
    Sound limits peer ⟨t.connection.conclude outcome, none, t.others⟩ := by
  have hunfinished := h.unfinished (by simp [hpending])
  cases outcome with
  | error e =>
    refine h.proceeds hunfinished (Connection.proceeds_reject _ e) fun hrank => ?_
    simp [Connection.conclude] at hrank
  | ok request =>
    have hlow := Connection.rank_accept_le t.connection request
    show Sound limits peer ⟨t.connection.accept request, none, t.others⟩
    rcases t.connection.accept_cases request with
      ⟨last, e, hkeeps, heq⟩ | ⟨opened, hkeeps, heq, hphase⟩
    · rw [heq] at hlow ⊢
      exact h.proceeds hunfinished (.ends hkeeps (some e)) fun hrank => by omega
    · rw [heq] at hlow ⊢
      have hopened : Sound limits peer ⟨opened, none, t.others⟩ :=
        h.proceeds hunfinished (.on hkeeps hphase) fun hrank => by
          have : opened.phase.rank ≤ 2 := hlow
          omega
      have htenant := hopened.tenant hphase
      exact ⟨hopened.consistent, hopened.addressed,
        fun _ => ⟨htenant.permit, htenant.kept, htenant.staying⟩, fun hp => absurd hp hphase,
        hopened.unmoved, hopened.unfinished⟩

/-- The client is identified, and the permit with it. -/
theorem Sound.identified (h : t.Sound limits peer) (hpending : t.pending = none) {head : Bytes}
    {codec : Codec} (hfound : t.connection.found? = some (head, codec)) :
    Sound limits peer
      ⟨(Connection.identified { t.connection with codec } head).1,
        some (Connection.identified { t.connection with codec } head).2, t.others⟩ := by
  obtain ⟨⟨deadline, hp⟩, -, -⟩ := Connection.found?_eq_some_iff.mp hfound
  have hunfinished : t.connection.phase ≠ .finished := by simp [hp]
  have htenant := h.tenant hunfinished
  have hunmoved := h.unmoved hpending (by simp [hp, Phase.rank])
  have hphase : (Connection.identified { t.connection with codec } head).1.phase ≠ .finished := by
    rw [Connection.phase_identified]
    exact hunfinished
  rcases Connection.identified_of_permit (c := { t.connection with codec }) htenant.permit head with
    hkeeps | ⟨target, decision, passed, admission, ht, heq⟩
  · -- nothing is to be passed on
    have hkeeps := (Connection.keeps_withCodec t.connection codec).trans hkeeps
    have hsound := h.proceeds hunfinished (.on hkeeps hphase) fun _ => hunmoved
    exact { hsound with
      unmoved := fun hn => absurd hn (Option.some_ne_none _)
      unfinished := fun _ => hphase }
  · -- the permit is passed on or kept, and the client with it
    have hpassed := Admission.Controller.passed_of_transferPermit ht
    have hclient : t.connection.client = peer.text := by
      rcases h.addressed with ⟨-, hclient⟩ | ⟨_, _, htransfers, -⟩
      · exact hclient
      · rw [hunmoved] at htransfers
        cases htransfers
    have hconsistent : Holding.Consistent limits ⟨admission, passed :: t.others⟩ := by
      have hbefore := h.consistent
      rw [holding, htenant.permit] at hbefore
      exact hbefore.passed ht
    have heffects : (Connection.identified { t.connection with codec } head).1.effects =
        t.connection.effects ++
          [.enter .handshaking, .transfer t.connection.client target decision] := by
      rw [heq]
      simp [Connection.effects, Connection.enter, Connection.emit]
    refine ⟨?_, .inr ⟨target, decision, ?_, ?_⟩, fun _ => ⟨?_, ?_, fun client hmem => ?_⟩,
      fun hp => absurd hp hphase, fun hn => absurd hn (Option.some_ne_none _), fun _ => hphase⟩
    · rw [heq]
      exact hconsistent
    · rw [heffects, Connection.transfersOf_append, hunmoved, ← hclient]
      rfl
    · rw [heq, ← hclient]
    · rw [heq, hpassed]
      show some _ = some (Permit.mk (if decision = .admitted then target else t.connection.client))
      split <;> rfl
    · rw [heffects, Connection.releasesOf_append, htenant.kept]
      rfl
    · rw [heffects] at hmem
      rcases List.mem_append.mp hmem with hmem | hmem
      · exact htenant.staying client hmem
      · simp at hmem

/-- Every step of a tenancy keeps it sound. -/
theorem Sound.step (h : t.Sound limits peer) : t.step.Sound limits peer := by
  unfold Tenancy.step
  cases hpending : t.pending with
  | some outcome => exact h.conclude hpending
  | none =>
    cases hfound : t.connection.found? with
    | some found => exact h.identified hpending hfound
    | none =>
      show Sound limits peer ⟨t.connection.step?.getD t.connection, none, t.others⟩
      cases hs : t.connection.step? with
      | none =>
        rw [← hpending]
        exact h
      | some next =>
        have hunfinished : t.connection.phase ≠ .finished := fun hp => by
          simp [Connection.step?, hp] at hs
        rcases Connection.proceeds_of_step? hs with hp | ⟨deadline, head, codec, hp, hrun, hread, -⟩
        · exact h.proceeds hunfinished hp fun hrank =>
            h.unmoved hpending (Nat.le_trans hrank (Connection.rank_le_of_step? hs))
        · rw [Connection.found?_eq_some_iff.mpr ⟨⟨deadline, hp⟩, hrun, hread⟩] at hfound
          cases hfound

/-- What the others do keeps a tenancy sound. -/
theorem Sound.act (h : t.Sound limits peer) (action : Holding.Action) :
    (t.act action).Sound limits peer := by
  have hin : (t.act action).connection.SameInside t.connection :=
    ⟨rfl, rfl, rfl, rfl, rfl, rfl, rfl, rfl, rfl, rfl⟩
  refine h.of_sameInside hin rfl ?_
  have hconsistent := h.consistent
  show Holding.Consistent limits ⟨_, t.connection.permit.toList ++ _⟩
  rw [holding] at hconsistent
  cases hpermit : t.connection.permit with
  | none =>
    rw [hpermit] at hconsistent
    exact hconsistent.act action
  | some permit =>
    rw [hpermit] at hconsistent
    exact Holding.Consistent.act_beside (h := ⟨t.connection.admission, t.others⟩) hconsistent action

theorem Sound.move (h : t.Sound limits peer) (m : Move) : (t.move m).Sound limits peer := by
  cases m with
  | step => exact h.step
  | event e =>
    have hc : Holding.Consistent limits ⟨(t.connection.apply e).admission,
        (t.connection.apply e).permit.toList ++ t.others⟩ := by
      cases e <;> exact h.consistent
    exact h.of_sameInside (Connection.sameInside_apply t.connection e) rfl hc
  | writes failure =>
    exact h.of_sameInside ⟨rfl, rfl, rfl, rfl, rfl, rfl, rfl, rfl, rfl, rfl⟩ rfl h.consistent
  | flushes failure =>
    exact h.of_sameInside ⟨rfl, rfl, rfl, rfl, rfl, rfl, rfl, rfl, rfl, rfl⟩ rfl h.consistent
  | clock time =>
    exact h.of_sameInside ⟨rfl, rfl, rfl, rfl, rfl, rfl, rfl, rfl, rfl, rfl⟩ rfl h.consistent
  | others action => exact h.act action

theorem Sound.after (h : t.Sound limits peer) (moves : List Move) :
    (t.after moves).Sound limits peer := by
  induction moves generalizing t with
  | nil => exact h
  | cons m moves ih => exact ih (h.move m)

theorem sound_start {h : Holding} (hc : h.Consistent limits) {place : Nat} {peer : Address}
    (hpermit : h.permits[place]? = some ⟨peer.text⟩) (config : Config) (application : Application)
    (now admissionTime : Nat) :
    (start h place config application peer now admissionTime).Sound limits peer := by
  have hlist : (start h place config application peer now admissionTime).holding.permits =
      ⟨peer.text⟩ :: h.permits.eraseIdx place := by
    simp [start, holding, Connection.new, hpermit]
  refine ⟨hc.perm rfl (hlist ▸ Holding.permits_perm hpermit), .inl ⟨rfl, ?_⟩,
    fun _ => ⟨?_, rfl, fun _ => List.not_mem_nil⟩, fun hp => (by cases hp), fun _ _ => rfl,
    fun hn => absurd rfl hn⟩
  · simp [start, Connection.new, hpermit]
  · simp [start, Connection.new, hpermit]

/-! ## Runs -/

/-- A connection is accepted under one of the permits that are held, which is that of its peer.
Whatever it and the other holders do then, the controller accounts for its permit and theirs.  Its
client is the peer, until the permit is passed on to another; a refusal changes neither.  Until the
connection ends it holds one permit, which is its client's, and has given none back.  When it has
ended it holds none and has given back one, its client's, before it took leave. -/
theorem held_after (limits : Admission.Limits) (earlier : List Holding.Action) (place : Nat)
    (config : Config) (application : Application) (peer : Address) (now admissionTime : Nat)
    (moves : List Move)
    (h : ((Holding.start limits).after earlier).permits[place]? = some ⟨peer.text⟩) :
    let t := (start ((Holding.start limits).after earlier) place config application peer now
      admissionTime).after moves
    t.holding.Consistent limits ∧ t.connection.Addressed peer ∧
      (t.connection.isFinished = false → t.connection.Tenant) ∧
        (t.connection.isFinished = true → t.connection.Departed) := by
  intro t
  have hconsistent := (Holding.consistent_start limits).after earlier
  have hsound := (sound_start hconsistent h config application now admissionTime).after moves
  refine ⟨hsound.consistent, hsound.addressed, fun hf => hsound.tenant fun hp => ?_,
    fun hf => hsound.departed (eq_of_beq hf)⟩
  rw [Connection.isFinished, hp] at hf
  cases hf

/-- A proxy asks to be let in for a client.  Another client comes before the request is answered, and
then the proxy closes. -/
def proxiedMoves : List Move :=
  let head := Bytes.ofText ("GET / HTTP/1.1\r\nHost: a\r\nUpgrade: websocket\r\n" ++
    "Connection: Upgrade\r\nSec-WebSocket-Key: AAAAAAAAAAAAAAAAAAAAAA==\r\n" ++
    "Sec-WebSocket-Version: 13\r\nX-Forwarded-For: 192.0.2.7\r\n\r\n")
  [.step, .event (.deliver [head]), .step, .step, .others (.acquire "198.51.100.9" 0), .step,
    .event .endOfInput, .step]

/-- What becomes of the proxy. -/
def proxied : Tenancy :=
  (start ((Holding.start .default).after [.acquire "127.0.0.1" 0]) 0 .default .silent
    (.v4 ⟨127, 0, 0, 1⟩) 0 0).after proxiedMoves

/-- The permit of the proxy is passed on to the client. -/
theorem held_after_of_proxied :
    ((Holding.start .default).after [.acquire "127.0.0.1" 0]).permits[0]? =
        some ⟨(Address.v4 ⟨127, 0, 0, 1⟩).text⟩ ∧
      (proxied.connection.isFinished = true ∧ proxied.connection.client = "192.0.2.7" ∧
        Connection.transfersOf proxied.connection.effects =
          [("127.0.0.1", "192.0.2.7", .admitted)]) ∧
      proxied.holding.Consistent .default ∧
        proxied.connection.Addressed (.v4 ⟨127, 0, 0, 1⟩) ∧ proxied.connection.Departed := by
  have hpermit : ((Holding.start .default).after [.acquire "127.0.0.1" 0]).permits[0]? =
      some ⟨(Address.v4 ⟨127, 0, 0, 1⟩).text⟩ := by decide +kernel
  have hrun : proxied.connection.isFinished = true ∧ proxied.connection.client = "192.0.2.7" ∧
      Connection.transfersOf proxied.connection.effects =
        [("127.0.0.1", "192.0.2.7", .admitted)] := by decide +kernel
  have hheld := held_after .default [.acquire "127.0.0.1" 0] 0 .default .silent
    (.v4 ⟨127, 0, 0, 1⟩) 0 0 proxiedMoves hpermit
  exact ⟨hpermit, hrun, hheld.1, hheld.2.1, hheld.2.2.2 hrun.1⟩

end Tenancy
end WebSocket
