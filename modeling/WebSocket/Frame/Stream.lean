import WebSocket.Frame.Incoming

/-
The frames of a whole stream, from its front on.  Each is judged by its header before it is read,
and the first that is refused ends them.  The stream is all there, so what is not whole at its end
never will be: there the connection has closed.
-/
namespace WebSocket
namespace Frame

/-- What an error of reading means at the end of a stream. -/
def ending : Error → Error
  | .incompleteFrame _ => .connectionClosed none
  | e => e

/-- The frames of a stream, and what ends them. -/
def ofStream (limits : Limits) (d : Bytes) : List Frame × Error :=
  match FrameHeader.decode d with
  | .error e => ([], ending e)
  | .ok h =>
    match h.check limits with
    | .error e => ([], e)
    | .ok () =>
      match _h : decode d with
      | .ok (frame, size) =>
        let (frames, e) := ofStream limits (d.drop size)
        (frame :: frames, e)
      | .error e => ([], ending e)
termination_by d.length
decreasing_by exact length_drop_lt_of_decode _h

end Frame
end WebSocket
