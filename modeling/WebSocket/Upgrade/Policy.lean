import WebSocket.Http.Head
import WebSocket.Upgrade.Request

/-
The policy of a server towards upgrade requests, on top of the demands of the protocol: how large
a head may be, which clients are refused by what they call themselves, and which sites may ask.
-/
namespace WebSocket
namespace Upgrade

/-- Parts of client names that are refused unless others are chosen. -/
def defaultBlockedAgents : List String :=
  ["sqlmap", "nikto", "nmap", "masscan"]

/-- The rules of a server for upgrade requests. -/
structure Policy where
  maxRequestSize : Nat
  security : Bool
  blockedAgents : List String
  allowedOrigins : Option (List String)
deriving DecidableEq

/-- Checks that a request comes from one of the listed sites.  One that does not say where it
comes from is on no list. -/
def checkOrigin (origin : Option String) (allowed : List String) : Except Error Unit :=
  match origin with
  | some site =>
    if allowed.any fun entry => Text.same entry site then .ok ()
    else .error (.originNotAllowed site)
  | none => .error (.originNotAllowed "(none)")

namespace Policy

/-- Refuses a client whose name holds a blocked token, in any letter case. -/
def checkAgent (p : Policy) (agent : Option String) : Except Error Unit :=
  match agent with
  | none => .ok ()
  | some agent =>
    if p.security then
      match p.blockedAgents.find? fun token => Text.occurs (Text.fold token) (Text.fold agent) with
      | some token => .error (.blockedClient (.userAgent token))
      | none => .ok ()
    else .ok ()

/-- Refuses a request from a site that is not listed, if there is a list. -/
def checkOrigin (p : Policy) (origin : Option String) : Except Error Unit :=
  match p.allowedOrigins with
  | some allowed => Upgrade.checkOrigin origin allowed
  | none => .ok ()

/-- The head at the front of what has arrived, if it is whole and not too large. -/
def takeHead (p : Policy) (buffer : Bytes) : Except Error Bytes :=
  match Http.headSize? buffer with
  | some size =>
    if size > p.maxRequestSize then .error (.requestTooLarge size p.maxRequestSize)
    else .ok (buffer.take size)
  | none =>
    if buffer.length > p.maxRequestSize then
      .error (.requestTooLarge buffer.length p.maxRequestSize)
    else .error (.invalidHandshake .incomplete)

/-- The request at the front of what has arrived, if the policy lets it pass.  Only the head is
looked at. -/
def judge (p : Policy) (buffer : Bytes) : Except Error Request := do
  let head ← p.takeHead buffer
  let request ← Request.decode head
  p.checkAgent request.userAgent?
  p.checkOrigin request.origin?
  return request

variable {p : Policy} {d : Bytes} {n : Nat}

theorem judge_take (h : Http.headSize? d = some n) : p.judge (d.take n) = p.judge d := by
  have hhead : p.takeHead (d.take n) = p.takeHead d := by
    simp only [takeHead, h, Http.headSize?_take h, List.take_take, Nat.min_self]
  rw [judge, judge, hhead]

theorem judge_append (h : Http.headSize? d = some n) (t : Bytes) :
    p.judge (d ++ t) = p.judge d := by
  have hle := Http.headSize?_le h
  rw [← judge_take h, ← judge_take (Http.headSize?_append h t), List.take_append_of_le_length hle]

/-- Nothing is accepted before the head is whole. -/
theorem isSome_headSize?_of_judge {request : Request} (h : p.judge d = .ok request) :
    ∃ n, Http.headSize? d = some n := by
  cases hn : Http.headSize? d with
  | some n => exact ⟨n, rfl⟩
  | none =>
    have hhead : ∃ e, p.takeHead d = .error e := by
      simp only [takeHead, hn]
      split <;> exact ⟨_, rfl⟩
    obtain ⟨e, he⟩ := hhead
    rw [judge, he] at h
    cases h

end Policy
end Upgrade
end WebSocket
