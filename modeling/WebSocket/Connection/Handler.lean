import WebSocket.Error

/-
The application that a connection calls.  It hears of connections, messages, errors and ends; to a
message it may have a reply, which may depend on all that it has been told of the connection.
-/
namespace WebSocket

/-- A call to the application, on behalf of a client. -/
inductive Call
  | connect (client : String)
  | message (client text : String)
  | binary (client : String) (data : Bytes)
  | disconnect (client : String)
  | error (client : String) (error : Error)
deriving DecidableEq

namespace Call

/-- The occasions of calls. -/
inductive Occasion
  | connect
  | message
  | binary
  | disconnect
  | error
deriving DecidableEq

/-- The occasion of a call. -/
def occasion : Call → Occasion
  | .connect _ => .connect
  | .message _ _ => .message
  | .binary _ _ => .binary
  | .disconnect _ => .disconnect
  | .error _ _ => .error

/-- The client on whose behalf a call is made. -/
def client : Call → String
  | .connect client => client
  | .message client _ => client
  | .binary client _ => client
  | .disconnect client => client
  | .error client _ => client

end Call

/-- How an application answers a call: its replies to messages, and the occasions on which it
listens. -/
structure Handler where
  onMessage : (client text : String) → Option String
  onBinary : (client : String) → (data : Bytes) → Option Bytes
  hears : Call.Occasion → Bool

namespace Handler

/-- Listens to nothing and never replies. -/
def silent : Handler :=
  { onMessage := fun _ _ => none
    onBinary := fun _ _ => none
    hears := fun _ => false }

/-- Replies are texts and byte strings of the machine, which are shorter than 2 ^ 63 bytes. -/
structure Fits (h : Handler) : Prop where
  text : ∀ client text reply, h.onMessage client text = some reply →
    reply.utf8ByteSize < 0x8000000000000000
  binary : ∀ client data reply, h.onBinary client data = some reply →
    reply.length < 0x8000000000000000

/-- The calls that are heard. -/
def heard (h : Handler) (calls : List Call) : List Call :=
  calls.filter fun call => h.hears call.occasion

end Handler

/-- An application.  How it answers a call of a connection may depend on all the calls that it has
had on its behalf, of which that one is the last. -/
structure Application where
  after : List Call → Handler

namespace Application

/-- An application that answers every call alike. -/
def steady (h : Handler) : Application :=
  ⟨fun _ => h⟩

instance : Coe Handler Application := ⟨steady⟩

/-- An application that listens to nothing and never replies. -/
def silent : Application :=
  steady .silent

/-- Replies are texts and byte strings of the machine, whatever the calls. -/
def Fits (a : Application) : Prop :=
  ∀ calls, (a.after calls).Fits

/-- The calls that the application hears.  What it listens to is settled before the first. -/
def heard (a : Application) (calls : List Call) : List Call :=
  (a.after []).heard calls

end Application

/-- Callbacks registered one by one. -/
structure Callbacks where
  connect : Bool
  message : Option (List Call → String → String → Option String)
  binary : Option (List Call → String → Bytes → Option Bytes)
  disconnect : Bool
  error : Bool

namespace Callbacks

/-- No callbacks. -/
def empty : Callbacks :=
  { connect := false
    message := none
    binary := none
    disconnect := false
    error := false }

/-- The callbacks with the one for an occasion registered, taken from an application. -/
def register (c : Callbacks) (a : Application) : Call.Occasion → Callbacks
  | .connect => { c with connect := true }
  | .message => { c with message := some fun calls => (a.after calls).onMessage }
  | .binary => { c with binary := some fun calls => (a.after calls).onBinary }
  | .disconnect => { c with disconnect := true }
  | .error => { c with error := true }

/-- Whether a callback is registered for an occasion. -/
def has (c : Callbacks) : Call.Occasion → Bool
  | .connect => c.connect
  | .message => c.message.isSome
  | .binary => c.binary.isSome
  | .disconnect => c.disconnect
  | .error => c.error

/-- How the callbacks answer after some calls. -/
def handler (c : Callbacks) (calls : List Call := []) : Handler :=
  { onMessage := fun client text => c.message.bind fun f => f calls client text
    onBinary := fun client data => c.binary.bind fun f => f calls client data
    hears := c.has }

/-- The application that the callbacks make. -/
def application (c : Callbacks) : Application :=
  ⟨fun calls => c.handler calls⟩

/-- The callbacks in words. -/
def text (c : Callbacks) : String :=
  "Callbacks \x7b on_connect: " ++ toString (c.has .connect) ++
    ", on_message: " ++ toString (c.has .message) ++
    ", on_binary: " ++ toString (c.has .binary) ++
    ", on_disconnect: " ++ toString (c.has .disconnect) ++
    ", on_error: " ++ toString (c.has .error) ++ " \x7d"

end Callbacks
end WebSocket
