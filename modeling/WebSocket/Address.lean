import WebSocket.Text.Numeral

/-
Addresses of the Internet Protocol, and their text.  An address of version 4 is written as four
decimal octets.  One of version 6 is written as eight hexadecimal groups in small letters, where
the first longest run of at least two zero groups shrinks to `::`; an address of version 4 that is
mapped into version 6 keeps its octets.
-/
namespace WebSocket

/-- An address of version 4. -/
structure Address4 where
  a : UInt8
  b : UInt8
  c : UInt8
  d : UInt8
deriving DecidableEq

/-- An address of version 6: its eight groups. -/
structure Address6 where
  groups : Vector UInt16 8
deriving DecidableEq

/-- An address of either version. -/
inductive Address
  | v4 (address : Address4)
  | v6 (address : Address6)
deriving DecidableEq

/-- The versions of the protocol. -/
inductive Family
  | ipv4
  | ipv6
deriving DecidableEq

namespace Family

/-- The name of a family. -/
def name : Family → String
  | .ipv4 => "Ipv4"
  | .ipv6 => "Ipv6"

end Family

namespace Address4

/-- The number that the four octets write. -/
def toNat (a : Address4) : Nat :=
  a.a.toNat * 0x1000000 + a.b.toNat * 0x10000 + a.c.toNat * 0x100 + a.d.toNat

/-- The address whose octets write a number. -/
def ofNat (n : Nat) : Address4 :=
  ⟨UInt8.ofNat (n / 0x1000000), UInt8.ofNat (n / 0x10000), UInt8.ofNat (n / 0x100), UInt8.ofNat n⟩

/-- The text of an address of version 4. -/
def text (a : Address4) : String :=
  ".".intercalate ([a.a, a.b, a.c, a.d].map fun octet => toString octet.toNat)

/-! ## Reading -/

/-- The digits at the front of a text, at most `limit` of them being of interest. -/
def leadingDigits (base : Nat) (cs : List Char) : List Char × List Char :=
  cs.span fun c => (Text.digit? base c).isSome

/-- An octet at the front: one to three digits, without a zero in front of others, and below 256. -/
def readOctet? (cs : List Char) : Option (UInt8 × List Char) :=
  let (digits, rest) := leadingDigits 10 cs
  if digits.isEmpty || digits.length > 3 || (digits.head? == some '0' && digits.length > 1) then
    none
  else
    match Text.digits? 10 0 digits with
    | some n => if n < 256 then some (UInt8.ofNat n, rest) else none
    | none => none

/-- An octet after a point. -/
def readNextOctet? : List Char → Option (UInt8 × List Char)
  | '.' :: rest => readOctet? rest
  | _ => none

/-- An address at the front, and what follows it. -/
def read? (cs : List Char) : Option (Address4 × List Char) := do
  let (a, rest) ← readOctet? cs
  let (b, rest) ← readNextOctet? rest
  let (c, rest) ← readNextOctet? rest
  let (d, rest) ← readNextOctet? rest
  return (⟨a, b, c, d⟩, rest)

/-- The address that a text writes. -/
def ofText? (s : String) : Option Address4 :=
  match read? s.toList with
  | some (address, []) => some address
  | _ => none

end Address4

namespace Address6

/-- The address with the given groups, filled up with zeros. -/
def ofList (groups : List UInt16) : Address6 :=
  ⟨Vector.ofFn fun i => groups.getD i.val 0⟩

/-- The groups of an address as numbers. -/
def toList (a : Address6) : List Nat :=
  a.groups.toList.map UInt16.toNat

/-- The address of version 4 that is mapped into this one. -/
def mapped? (a : Address6) : Option Address4 :=
  match a.toList with
  | [0, 0, 0, 0, 0, 0xffff, high, low] => some (Address4.ofNat (high * 0x10000 + low))
  | _ => none

/-- The length of the run of zeros at the front. -/
def zeros (groups : List Nat) : Nat :=
  (groups.takeWhile (· == 0)).length

/-- Where the first longest run of zeros starts, and its length. -/
def longestZeros (groups : List Nat) : Nat × Nat :=
  (List.range groups.length).foldl
    (fun best i =>
      let n := zeros (groups.drop i)
      if n > best.2 then (i, n) else best)
    (0, 0)

/-- Groups in hexadecimal, separated by colons. -/
def joinGroups (groups : List Nat) : String :=
  ":".intercalate (groups.map Text.hex)

/-- The text of an address by its groups alone. -/
def groupText (a : Address6) : String :=
  let groups := a.toList
  let (start, count) := longestZeros groups
  if count < 2 then joinGroups groups
  else joinGroups (groups.take start) ++ "::" ++ joinGroups (groups.drop (start + count))

/-- The text of an address of version 6. -/
def text (a : Address6) : String :=
  match a.mapped? with
  | some inner => "::ffff:" ++ inner.text
  | none => a.groupText

/-! ## Reading -/

/-- A group at the front: one to four hexadecimal digits. -/
def readGroup? (cs : List Char) : Option (UInt16 × List Char) :=
  let (digits, rest) := Address4.leadingDigits 16 cs
  if digits.isEmpty || digits.length > 4 then none
  else
    match Text.digits? 16 0 digits with
    | some n => some (UInt16.ofNat n, rest)
    | none => none

/-- What follows the colon before the group of index `i`.  No colon precedes the first group. -/
def afterColon? (i : Nat) (cs : List Char) : Option (List Char) :=
  if i = 0 then some cs
  else
    match cs with
    | ':' :: rest => some rest
    | _ => none

/-- Up to `room` further groups, after the `i` read before.  Two groups may be written as an
address of version 4, which then ends the run; the flag says whether it did. -/
def readGroups : (room i : Nat) → List Char → List UInt16 × Bool × List Char
  | 0, _, cs => ([], false, cs)
  | room + 1, i, cs =>
    match afterColon? i cs with
    | none => ([], false, cs)
    | some here =>
      match (if room = 0 then none else Address4.read? here) with
      | some (inner, rest) =>
        let n := inner.toNat
        ([UInt16.ofNat (n / 0x10000), UInt16.ofNat n], true, rest)
      | none =>
        match readGroup? here with
        | none => ([], false, cs)
        | some (group, rest) =>
          let (groups, inner, rest) := readGroups room (i + 1) rest
          (group :: groups, inner, rest)

/-- The address that a text writes: eight groups, or fewer around one `::`. -/
def ofText? (s : String) : Option Address6 :=
  let (front, inner, rest) := readGroups 8 0 s.toList
  if front.length = 8 then
    if rest.isEmpty then some (ofList front) else none
  else if inner then none
  else
    match rest with
    | ':' :: ':' :: rest =>
      let (back, _, rest) := readGroups (7 - front.length) 0 rest
      if rest.isEmpty then
        let zeros := List.replicate (8 - front.length - back.length) 0
        some (ofList (front ++ zeros ++ back))
      else none
    | _ => none

end Address6

namespace Address

/-- The version of an address. -/
def family : Address → Family
  | .v4 _ => .ipv4
  | .v6 _ => .ipv6

/-- The address that stands for every address of a family. -/
def unspecified : Family → Address
  | .ipv4 => .v4 ⟨0, 0, 0, 0⟩
  | .ipv6 => .v6 (.ofList [])

/-- The address by which a machine reaches itself. -/
def loopback : Family → Address
  | .ipv4 => .v4 ⟨127, 0, 0, 1⟩
  | .ipv6 => .v6 (.ofList [0, 0, 0, 0, 0, 0, 0, 1])

/-- Whether an address stands for every address of its family. -/
def isUnspecified (a : Address) : Bool :=
  a == unspecified a.family

/-- The text of an address. -/
def text : Address → String
  | .v4 a => a.text
  | .v6 a => a.text

/-- The address that a text writes. -/
def ofText? (s : String) : Option Address :=
  match Address4.ofText? s with
  | some a => some (.v4 a)
  | none => (Address6.ofText? s).map .v6

/-- Whether a text writes an address of version 4. -/
def isV4Text (s : String) : Bool :=
  (Address4.ofText? s).isSome

/-- Whether a text writes an address of version 6. -/
def isV6Text (s : String) : Bool :=
  (Address6.ofText? s).isSome

end Address
end WebSocket
