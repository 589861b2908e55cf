import WebSocket.Bytes
import WebSocket.Text.Numeral

/-
Percent coding: a byte that may not stand for itself is written as a percent sign and two
hexadecimal digits.  Reading undoes it wherever two such digits follow the sign; a sign without
them stands for itself.
-/
namespace WebSocket
namespace Text
namespace Percent

/-- The capital digit of a number below sixteen. -/
def digit (n : Nat) : Char :=
  if n < 10 then Char.ofNat (48 + n) else Char.ofNat (55 + n)

/-- How a byte is written that may not stand for itself. -/
def escape (b : UInt8) : List Char :=
  ['%', digit (b.toNat / 16), digit (b.toNat % 16)]

/-- The characters that write bytes, where only what is not `special` stands for itself. -/
def encodeBytes (special : UInt8 → Bool) (b : Bytes) : List Char :=
  b.flatMap fun x => if special x then escape x else [Char.ofNat x.toNat]

/-- A text in percent coding. -/
def encode (special : UInt8 → Bool) (s : String) : String :=
  String.ofList (encodeBytes special (Bytes.ofText s))

/-- The value of a byte as a hexadecimal digit. -/
def digitOfByte? (b : UInt8) : Option Nat :=
  Text.digit? 16 (Char.ofNat b.toNat)

/-- The bytes that a byte string in percent coding stands for. -/
def decode : Bytes → Bytes
  | [] => []
  | [a] => [a]
  | [a, b] => [a, b]
  | a :: b :: c :: rest =>
    match (if a = 37 then digitOfByte? b else none), digitOfByte? c with
    | some high, some low => UInt8.ofNat (high * 16 + low) :: decode rest
    | _, _ => a :: decode (b :: c :: rest)

/-! ## What may not stand for itself -/

/-- Controls and all that is not ASCII. -/
def isControl (b : UInt8) : Bool :=
  b < 32 || b ≥ 127

/-- Whether a byte is one of the given characters. -/
def isOneOf (chars : String) (b : UInt8) : Bool :=
  chars.toList.any fun c => c.toNat == b.toNat

/-- What a path may not hold. -/
def inPath (b : UInt8) : Bool :=
  isControl b || isOneOf " \"#<>?\u0060\x7b\x7d" b

/-- What the query of a well-known scheme may not hold. -/
def inQuery (b : UInt8) : Bool :=
  isControl b || isOneOf " \"#<>'" b

end Percent
end Text
end WebSocket
