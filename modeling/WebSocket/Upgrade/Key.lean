import WebSocket.Base64
import WebSocket.Digest.Sha1
import WebSocket.Error

/-
The keys of the opening handshake.  A client sends sixteen bytes in Base64; the server proves that
it understood by sending back the digest of that text and a fixed identifier.
-/
namespace WebSocket
namespace Upgrade

/-- The identifier that marks the protocol in an acceptance. -/
def guid : String := "258EAFA5-E914-47DA-95CA-C5AB0DC85B11"

/-- The acceptance that answers a key. -/
def acceptance (key : String) : String :=
  String.ofList (Base64.encode (Sha1.digest (Bytes.ofText (key ++ guid))))

/-- How many characters a key has. -/
def keyLength : Nat := 24

/-- How many bytes a key stands for. -/
def keyBytes : Nat := 16

/-- Checks that a key is the Base64 form of sixteen bytes. -/
def checkKey (key : String) : Except Error Unit :=
  if key.utf8ByteSize ≠ keyLength then
    .error (.invalidHandshake (.keyLength key.utf8ByteSize))
  else
    match Base64.decode? key.toList with
    | some bytes =>
      if bytes.length = keyBytes then .ok ()
      else .error (.invalidHandshake (.keyBytes bytes.length))
    | none => .error (.invalidHandshake .keyNotBase64)

end Upgrade
end WebSocket
