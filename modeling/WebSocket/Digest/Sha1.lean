import WebSocket.Bytes

/-
The SHA-1 digest of a byte string: the message is padded to whole blocks of sixteen words, and
each block is mixed into a state of five words in eighty rounds.  It stands in for the digest of a
general library.
-/
namespace WebSocket
namespace Sha1

/-- The chaining state. -/
structure State where
  a : UInt32
  b : UInt32
  c : UInt32
  d : UInt32
  e : UInt32

/-- The state before the first block. -/
def State.initial : State :=
  ⟨0x67452301, 0xEFCDAB89, 0x98BADCFE, 0x10325476, 0xC3D2E1F0⟩

/-- The bytes of a state, which are the digest once every block is in. -/
def State.bytes (s : State) : Bytes :=
  [s.a, s.b, s.c, s.d, s.e].flatMap fun w => Bytes.ofNat 4 w.toNat

/-- A word rotated to the left. -/
def rotate (w count : UInt32) : UInt32 :=
  (w <<< count) ||| (w >>> (32 - count))

/-- The message, a one bit, zeros, and the length in bits: together whole blocks of 64 bytes. -/
def pad (message : Bytes) : Bytes :=
  let zeros := (119 - message.length % 64) % 64
  message ++ 0x80 :: List.replicate zeros 0 ++ Bytes.ofNat 8 (8 * message.length)

/-- The words that each four bytes form, most significant first, behind those already read. -/
def wordsFrom (read : List UInt32) : Bytes → List UInt32
  | a :: b :: c :: d :: rest =>
    wordsFrom (UInt32.ofNat (Bytes.toNat [a, b, c, d]) :: read) rest
  | _ => read.reverse

/-- The words of a padded message, sixteen to a block. -/
def blocks (padded : Bytes) : List (List UInt32) :=
  let words := wordsFrom [] padded
  (List.range (words.length / 16)).map fun i => (words.drop (16 * i)).take 16

/-- Extends the words of a block, held latest first, by `count` more. -/
def extend : (count : Nat) → List UInt32 → List UInt32
  | 0, latest => latest
  | count + 1, latest =>
    let w := latest.getD 2 0 ^^^ latest.getD 7 0 ^^^ latest.getD 13 0 ^^^ latest.getD 15 0
    extend count (rotate w 1 :: latest)

/-- The mixing function and the constant of a round. -/
def roundFunction (t : Nat) (b c d : UInt32) : UInt32 × UInt32 :=
  if t < 20 then ((b &&& c) ||| (~~~b &&& d), 0x5A827999)
  else if t < 40 then (b ^^^ c ^^^ d, 0x6ED9EBA1)
  else if t < 60 then ((b &&& c) ||| (b &&& d) ||| (c &&& d), 0x8F1BBCDC)
  else (b ^^^ c ^^^ d, 0xCA62C1D6)

/-- One round with the word `w`. -/
def round (s : State) (step : UInt32 × Nat) : State :=
  let (w, t) := step
  let (f, k) := roundFunction t s.b s.c s.d
  ⟨rotate s.a 5 + f + s.e + k + w, s.a, rotate s.b 30, s.c, s.d⟩

/-- A block mixed into the state. -/
def mix (s : State) (block : List UInt32) : State :=
  let r := (extend 64 block.reverse).reverse.zipIdx.foldl round s
  ⟨s.a + r.a, s.b + r.b, s.c + r.c, s.d + r.d, s.e + r.e⟩

/-- The twenty bytes of the digest. -/
def digest (message : Bytes) : Bytes :=
  ((blocks (pad message)).foldl mix State.initial).bytes

end Sha1
end WebSocket
