import WebSocket.Bytes

/-
Base64 with the alphabet that ends in `+` and `/`.  The written form is padded with `=` to groups
of four characters.  Reading accepts the written form only: padding has to be complete, and the
bits that a short last group leaves over have to be zero.  It stands in for the coding of a general
library, of which a handshake needs no more.
-/
namespace WebSocket
namespace Base64

/-- The character that stands for six bits. -/
def symbol (n : Nat) : Char :=
  if n < 26 then Char.ofNat (65 + n)
  else if n < 52 then Char.ofNat (71 + n)
  else if n < 62 then Char.ofNat (n - 4)
  else if n = 62 then '+'
  else '/'

/-- The six bits that a character stands for. -/
def value? (c : Char) : Option Nat :=
  let n := c.toNat
  if 65 ≤ n ∧ n ≤ 90 then some (n - 65)
  else if 97 ≤ n ∧ n ≤ 122 then some (n - 71)
  else if 48 ≤ n ∧ n ≤ 57 then some (n + 4)
  else if c = '+' then some 62
  else if c = '/' then some 63
  else none

theorem value?_symbol : ∀ n < 64, value? (symbol n) = some n := by
  decide

/-- The first `count` of the four characters that write a number of 24 bits. -/
def group (count n : Nat) : List Char :=
  [symbol (n / 0x40000 % 64), symbol (n / 0x1000 % 64), symbol (n / 64 % 64), symbol (n % 64)].take
    count

/-- The characters that write a byte string. -/
def encode : Bytes → List Char
  | [] => []
  | [a] => group 2 (a.toNat * 0x10000) ++ ['=', '=']
  | [a, b] => group 3 (a.toNat * 0x10000 + b.toNat * 0x100) ++ ['=']
  | a :: b :: c :: rest =>
    group 4 (a.toNat * 0x10000 + b.toNat * 0x100 + c.toNat) ++ encode rest

/-- The number that characters write, six bits each. -/
def number? : (n : Nat) → List Char → Option Nat
  | n, [] => some n
  | n, c :: rest =>
    match value? c with
    | some v => number? (n * 64 + v) rest
    | none => none

/-- The bytes of a short last group, whose low bits below `unit` have to be zero. -/
def decodeLast (width unit : Nat) (cs : List Char) : Option Bytes :=
  match number? 0 cs with
  | some n => if n % unit = 0 then some (Bytes.ofNat width (n / unit)) else none
  | none => none

/-- The byte string that the characters write, if they write one. -/
def decode? : List Char → Option Bytes
  | [] => some []
  | [a, b, '=', '='] => decodeLast 1 0x10 [a, b]
  | [a, b, c, '='] => decodeLast 2 0x4 [a, b, c]
  | a :: b :: c :: d :: rest =>
    match number? 0 [a, b, c, d], decode? rest with
    | some n, some bytes => some (Bytes.ofNat 3 n ++ bytes)
    | _, _ => none
  | _ => none

end Base64
end WebSocket
