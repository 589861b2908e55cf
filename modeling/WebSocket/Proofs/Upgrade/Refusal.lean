import WebSocket.Proofs.Transport.Scan
import WebSocket.Upgrade.Policy

/-
Why an upgrade request is refused.  A head that is whole and not too large is refused with an
objection: it breaks a rule of the handshake, a header field is malformed, or the policy is against
the client or the site (`Policy.objects_judge`).  For each of these there is an HTTP status, as
there is for a head that is too large or not whole (`Policy.status?_of_judge`).
-/
namespace WebSocket
namespace Upgrade

open Http (Headers)

/-- What can be held against a head that is whole and not too large. -/
inductive Objection : Error → Prop
  | handshake {fault : HandshakeFault} (h : fault ≠ .incomplete) :
    Objection (.invalidHandshake fault)
  | header (name : String) (fault : HeaderFault) : Objection (.invalidHeaderValue name fault)
  | client (fault : ClientFault) : Objection (.blockedClient fault)
  | site (site : String) : Objection (.originNotAllowed site)

theorem Objection.status? {e : Error} (h : Objection e) : ∃ status, e.status? = some status := by
  cases h <;> exact ⟨_, rfl⟩

/-- An objection presupposes a head that is whole and not too large. -/
theorem Objection.ne {e : Error} (h : Objection e) :
    e ≠ .invalidHandshake .incomplete ∧ ∀ size max, e ≠ .requestTooLarge size max := by
  cases h with
  | handshake h =>
    exact ⟨fun heq => h (Error.invalidHandshake.inj heq), fun _ _ => Error.noConfusion⟩
  | header => exact ⟨Error.noConfusion, fun _ _ => Error.noConfusion⟩
  | client => exact ⟨Error.noConfusion, fun _ _ => Error.noConfusion⟩
  | site => exact ⟨Error.noConfusion, fun _ _ => Error.noConfusion⟩

/-- A check fails with objections only. -/
def Objects {α : Type} (x : Except Error α) : Prop :=
  ∀ e, x = .error e → Objection e

theorem objects_ok {α : Type} (a : α) : Objects (.ok a : Except Error α) := by
  intro e h
  cases h

theorem objects_error {α : Type} {e : Error} (h : Objection e) :
    Objects (.error e : Except Error α) := by
  intro e h
  cases h
  exact ‹_›

theorem Objects.bind {α β : Type} {x : Except Error α} {f : α → Except Error β} (hx : Objects x)
    (hf : ∀ a, Objects (f a)) : Objects (x >>= f) := by
  cases x with
  | error e => exact objects_error (hx e rfl)
  | ok a => exact hf a

/-! ## The request line and the header lines -/

theorem objects_checkVersion (version : String) : Objects (checkVersion version) := by
  have hold : Objects (.error (.invalidHandshake (.oldVersion version)) : Except Error Unit) :=
    objects_error (.handshake HandshakeFault.noConfusion)
  unfold checkVersion
  split
  · split
    · exact objects_ok ()
    · exact hold
  · exact hold

theorem objects_readRequestLine (line : String) : Objects (readRequestLine line) := by
  unfold readRequestLine
  split
  · exact objects_error (.handshake HandshakeFault.noConfusion)
  · split
    · split
      · exact objects_error (.handshake HandshakeFault.noConfusion)
      · split
        · exact objects_ok _
        · exact objects_error (objects_checkVersion _ _ ‹_›)
    · exact objects_error (.handshake HandshakeFault.noConfusion)

theorem objects_readLine (line : String) : Objects (Headers.readLine line) := by
  unfold Headers.readLine
  split
  · exact objects_error (.header _ _)
  · split
    · exact objects_error (.header _ _)
    · split
      · exact objects_ok _
      · exact objects_error (.header _ _)

theorem objects_readLinesInto (h : Headers) (lines : List String) :
    Objects (Headers.readLinesInto h lines) := by
  induction lines generalizing h with
  | nil => exact objects_ok h
  | cons line rest ih =>
    rw [Headers.readLinesInto]
    split
    · exact objects_ok h
    · split
      · exact ih _
      · exact objects_error (objects_readLine line _ ‹_›)

/-! ## The demands of the protocol -/

theorem objects_checkHost (h : Headers) : Objects (checkHost h) := by
  unfold checkHost
  split
  · exact objects_error (.handshake HandshakeFault.noConfusion)
  · exact objects_ok ()

theorem objects_checkUpgrade (h : Headers) : Objects (checkUpgrade h) := by
  unfold checkUpgrade
  split
  · exact objects_ok ()
  · exact objects_error (.handshake HandshakeFault.noConfusion)

theorem objects_checkConnection (h : Headers) : Objects (checkConnection h) := by
  unfold checkConnection
  split
  · exact objects_ok ()
  · exact objects_error (.handshake HandshakeFault.noConfusion)

theorem objects_checkKey (key : String) : Objects (checkKey key) := by
  unfold checkKey
  split
  · exact objects_error (.handshake HandshakeFault.noConfusion)
  · split
    · split
      · exact objects_ok ()
      · exact objects_error (.handshake HandshakeFault.noConfusion)
    · exact objects_error (.handshake HandshakeFault.noConfusion)

theorem objects_readKey (h : Headers) : Objects (readKey h) := by
  unfold readKey
  split
  · exact objects_error (.handshake HandshakeFault.noConfusion)
  · rename_i key _
    split
    · exact objects_ok key
    · exact objects_error (objects_checkKey key _ ‹_›)

theorem objects_checkProtocolVersion (h : Headers) : Objects (checkProtocolVersion h) := by
  unfold checkProtocolVersion
  split
  · exact objects_error (.handshake HandshakeFault.noConfusion)
  · split
    · exact objects_ok ()
    · exact objects_error (.handshake HandshakeFault.noConfusion)

theorem Request.objects_ofLines (requestLine : String) (lines : List String) :
    Objects (Request.ofLines requestLine lines) := by
  refine (objects_readRequestLine requestLine).bind fun parts => ?_
  refine (objects_readLinesInto .empty lines).bind fun headers => ?_
  refine (objects_checkHost headers).bind fun _ => ?_
  refine (objects_checkUpgrade headers).bind fun _ => ?_
  refine (objects_checkConnection headers).bind fun _ => ?_
  refine (objects_readKey headers).bind fun key => ?_
  exact (objects_checkProtocolVersion headers).bind fun _ => objects_ok _

theorem Request.objects_decode (head : Bytes) : Objects (Request.decode head) := by
  unfold Request.decode
  split
  · exact objects_error (.handshake HandshakeFault.noConfusion)
  · split <;> exact Request.objects_ofLines _ _

/-! ## The policy -/

namespace Policy

theorem objects_checkAgent (p : Policy) (agent : Option String) : Objects (p.checkAgent agent) := by
  unfold checkAgent
  split
  · exact objects_ok ()
  · split
    · split
      · exact objects_error (.client _)
      · exact objects_ok ()
    · exact objects_ok ()

theorem objects_checkOrigin (p : Policy) (origin : Option String) :
    Objects (p.checkOrigin origin) := by
  unfold checkOrigin Upgrade.checkOrigin
  split
  · split
    · split
      · exact objects_ok ()
      · exact objects_error (.site _)
    · exact objects_error (.site _)
  · exact objects_ok ()

variable {p : Policy} {d head : Bytes}

/-- Against a head that is whole and not too large only an objection can be raised. -/
theorem objects_judge (h : p.takeHead d = .ok head) : Objects (p.judge d) := by
  rw [judge, h]
  refine (Request.objects_decode head).bind fun request => ?_
  refine (p.objects_checkAgent request.userAgent?).bind fun _ => ?_
  exact (p.objects_checkOrigin request.origin?).bind fun _ => objects_ok request

theorem error_of_takeHead {e : Error} (h : p.takeHead d = .error e) :
    e = .invalidHandshake .incomplete ∨ ∃ size, e = .requestTooLarge size p.maxRequestSize := by
  unfold takeHead at h
  split at h
  · split at h
    · cases h
      exact .inr ⟨_, rfl⟩
    · cases h
  · split at h <;> cases h
    · exact .inr ⟨_, rfl⟩
    · exact .inl rfl

/-- Whatever a request is refused for, there is a status that refuses it. -/
theorem status?_of_judge {e : Error} (h : p.judge d = .error e) :
    ∃ status, e.status? = some status := by
  cases hd : p.takeHead d with
  | ok head => exact (objects_judge hd e h).status?
  | error fault =>
    rw [judge, hd] at h
    cases h
    rcases error_of_takeHead hd with rfl | ⟨size, rfl⟩ <;> exact ⟨_, rfl⟩

end Policy
end Upgrade

/-- A head that a scan finds is whole, and not too large for a policy with the same limit. -/
theorem takeHead_of_scanHead {limits : Limits} {p : Upgrade.Policy} {d head rest : Bytes}
    (h : scanHead limits d = .found head rest) (hp : p.maxRequestSize = limits.maxRequestSize) :
    p.takeHead head = .ok head := by
  obtain ⟨n, hn, hle, rfl, -⟩ := scanHead_eq_found_iff.mp h
  have hwhole := Http.headSize?_take hn
  have hsize : ¬ n > p.maxRequestSize := by
    rw [hp]
    exact Nat.not_lt_of_le hle
  simp only [Upgrade.Policy.takeHead, hwhole, if_neg hsize, List.take_take, Nat.min_self]

end WebSocket
