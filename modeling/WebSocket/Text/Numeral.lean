/-
Numerals: reading and writing whole numbers in a base.  A numeral is a nonempty run of digits,
with at most one plus sign before it, and its value has to lie below a bound.
-/
namespace WebSocket
namespace Text

/-- The value of a digit, where letters of either case follow the nine. -/
def digitValue? (c : Char) : Option Nat :=
  if '0' ≤ c ∧ c ≤ '9' then some (c.toNat - '0'.toNat)
  else if 'a' ≤ c ∧ c ≤ 'z' then some (c.toNat - 'a'.toNat + 10)
  else if 'A' ≤ c ∧ c ≤ 'Z' then some (c.toNat - 'A'.toNat + 10)
  else none

/-- The value of a digit of the given base. -/
def digit? (base : Nat) (c : Char) : Option Nat :=
  match digitValue? c with
  | some d => if d < base then some d else none
  | none => none

/-- The number that continues `n` with the given digits. -/
def digits? (base : Nat) : (n : Nat) → List Char → Option Nat
  | n, [] => some n
  | n, c :: rest =>
    match digit? base c with
    | some d => digits? base (n * base + d) rest
    | none => none

/-- The characters of a numeral after its plus sign, if it has one. -/
def unsigned : List Char → List Char
  | '+' :: rest => rest
  | cs => cs

/-- The number below `bound` that a numeral of the given base writes. -/
def number? (base bound : Nat) (s : String) : Option Nat :=
  match unsigned s.toList with
  | [] => none
  | c :: rest =>
    match digits? base 0 (c :: rest) with
    | some n => if n < bound then some n else none
    | none => none

/-- The hexadecimal numeral of a number, in small letters. -/
def hex (n : Nat) : String :=
  String.ofList (Nat.toDigits 16 n)

/-- The bound of numbers of 16 bits. -/
def bound16 : Nat := 0x10000

/-- The bound of numbers of 32 bits. -/
def bound32 : Nat := 0x100000000

/-- The bound of numbers of 64 bits, which sizes are. -/
def bound64 : Nat := 0x10000000000000000

end Text
end WebSocket
