import WebSocket.Address
import WebSocket.Text.Percent
import WebSocket.Url.Domain
import WebSocket.Url.Fault

/-
The hosts of URLs.  A host in brackets is an address of version 6.  Any other host of a well-known
scheme is a domain, and if its last part is a number, then it is an address of version 4: one to
four numbers, each decimal, octal after a zero or hexadecimal after `0x`, of which the last fills
all the bytes that are left.
-/
namespace WebSocket

/-- The host of a URL. -/
inductive Host
  | domain (name : String)
  | ipv4 (address : Address4)
  | ipv6 (address : Address6)
deriving DecidableEq

namespace Host

/-! ## Numbers of an address -/

/-- What a part of a host says as a number. -/
inductive Part
  | number (value : Nat)
  | tooLarge
  | notNumber
deriving DecidableEq

/-- The base that the start of a numeral announces, and the digits after it. -/
def readBase : List Char → Nat × List Char
  | '0' :: 'x' :: rest => (16, rest)
  | '0' :: 'X' :: rest => (16, rest)
  | '0' :: c :: rest => (8, c :: rest)
  | cs => (10, cs)

/-- Reads a part of a host as a number.  A base without digits is a zero. -/
def Part.ofText (s : String) : Part :=
  if s.isEmpty then .notNumber
  else
    let (base, digits) := readBase s.toList
    match Text.digits? base 0 digits with
    | some n => if n < 0x100000000 then .number n else .tooLarge
    | none => .notNumber

/-- The parts of a host, without an empty one at the end. -/
def parts (s : String) : List String :=
  let all := Text.pieces "." s
  if all.getLast? = some "" then all.dropLast else all

/-- Whether the last part of a host is a number. -/
def endsInNumber (s : String) : Bool :=
  match (parts s).getLast? with
  | none => false
  | some last =>
    (!last.isEmpty && last.toList.all Char.isDigit) || Part.ofText last ≠ .notNumber

/-- The numbers of the parts, if all are numbers. -/
def numbers? : List String → Option (List Nat)
  | [] => some []
  | part :: rest =>
    match Part.ofText part, numbers? rest with
    | .number n, some ns => some (n :: ns)
    | _, _ => none

/-- The address that numbers make: all but the last are bytes from the front, and the last fills
up. -/
def address4? (ns : List Nat) : Option Address4 :=
  match ns.getLast? with
  | none => none
  | some last =>
    let front := ns.dropLast
    if last < Bytes.place (4 - front.length) && front.all (· < 256) then
      let high := front.mapIdx fun i n => n * Bytes.place (3 - i)
      some (Address4.ofNat (Sequence.total id high + last))
    else none

/-- The address of version 4 that a host writes. -/
def readAddress4 (s : String) : Except UrlFault Address4 :=
  let ps := parts s
  if ps.length > 4 then .error .invalidAddress4
  else
    match (numbers? ps).bind address4? with
    | some a => .ok a
    | none => .error .invalidAddress4

/-! ## Hosts -/

/-- The address between brackets, for a host that starts with one. -/
def readBracketed (cs : List Char) : Except UrlFault Host :=
  match cs.getLast? with
  | some ']' =>
    match Address6.ofText? (String.ofList cs.dropLast) with
    | some a => .ok (.ipv6 a)
    | none => .error .invalidAddress6
  | _ => .error .invalidAddress6

/-- The host of a well-known scheme. -/
def read : List Char → Except UrlFault Host
  | '[' :: rest => readBracketed rest
  | cs =>
    match Domain.toAscii? (Text.Percent.decode (Bytes.ofText (String.ofList cs))) with
    | none => .error .invalidDomain
    | some name =>
      if name.isEmpty then .error .emptyHost
      else if endsInNumber name then (readAddress4 name).map .ipv4
      else .ok (.domain name)

/-- Whether a character may not stand in the host of any scheme. -/
def isForbidden (c : Char) : Bool :=
  c.toNat == 0 || "\t\n\r #/:<>?@[\\]^|".toList.contains c

/-- Checks the host of a scheme that is not well known, which stands for itself. -/
def checkOpaque : List Char → Except UrlFault Unit
  | '[' :: rest =>
    match readBracketed rest with
    | .ok _ => .ok ()
    | .error e => .error e
  | cs => if cs.any isForbidden then .error .invalidHostCharacter else .ok ()

/-- The text of a host. -/
def text : Host → String
  | .domain name => name
  | .ipv4 a => a.text
  | .ipv6 a => "[" ++ a.groupText ++ "]"

end Host
end WebSocket
