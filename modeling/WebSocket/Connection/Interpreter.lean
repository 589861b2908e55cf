import WebSocket.Connection
import WebSocket.Frame.Stream

/-
What a connection is to do, told in order.  The interpreter has the frames of the whole stream
before it, takes them one after the other, and knows neither chunks nor clocks nor states: it only
says what is written and what the application is told.
-/
namespace WebSocket

/-- Whether the peer or the application gets to see an effect. -/
def Effect.isVisible : Effect → Bool
  | .write _ => true
  | .call _ => true
  | _ => false

namespace Interpreter

/-- Sends a frame, if there is one. -/
def send : Option Frame → List Effect
  | some frame => [.write frame.encode]
  | none => []

/-- Refuses to go on after a fault: a close frame says which, and the application hears of it. -/
def refuse (client : String) (e : Error) : List Effect :=
  [ .write (Frame.close (some (e.closeCode?.getD .protocolError)) "").encode,
    .call (.error client e) ]

/-- What is to be done about frames, and about what ends them, after some calls.  A connection that
the peer has closed ends without a word. -/
def run (application : Application) (client : String) :
    List Call → List Frame → Error → List Effect
  | _, [], .connectionClosed _ => []
  | _, [], e => refuse client e
  | calls, f :: frames, e =>
    match Message.ofFrame f with
    | .ok (.text content) =>
      let call := .message client content
      let reply := (application.after (calls ++ [call])).onMessage client content
      .call call :: (send (reply.map Frame.text) ++
        run application client (calls ++ [call]) frames e)
    | .ok (.binary data) =>
      let call := .binary client data
      let reply := (application.after (calls ++ [call])).onBinary client data
      .call call :: (send (reply.map Frame.binary) ++
        run application client (calls ++ [call]) frames e)
    | .ok (.ping data) => .write (Frame.pong data).encode :: run application client calls frames e
    | .ok (.pong _) => run application client calls frames e
    | .ok (.close _) => [.write (Frame.new .close f.payload).encode]
    | .error fault => refuse client fault

/-- What is to be done about bytes after the head of the request, after some calls. -/
def interpret (limits : Limits) (application : Application) (client : String) (calls : List Call)
    (d : Bytes) : List Effect :=
  run application client calls (Frame.ofStream limits d).1 (Frame.ofStream limits d).2

/-- What is to be done about a request that is accepted, and the bytes after it. -/
def serve (limits : Limits) (application : Application) (client : String)
    (request : Upgrade.Request) (d : Bytes) : List Effect :=
  .write (Bytes.ofText request.acceptResponse) :: .call (.connect client) ::
    interpret limits application client [.connect client] d

end Interpreter

/-- What of a connection's doings can be seen. -/
def Connection.visible (c : Connection) : List Effect :=
  c.effects.filter Effect.isVisible

end WebSocket
