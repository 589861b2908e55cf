import WebSocket.Text

/-
Writing a text in letters, digits and hyphens of ASCII.  The ASCII characters of the text come
first, with a hyphen behind them if there are any.  Then the other characters are inserted in the
order of their code points: each of them is a number, which says how many combinations of code
point and place to pass over.  A number is written in digits of base 36, the lowest first; a digit
below a threshold is the last one, and the thresholds adapt to the size of the numbers.
-/
namespace WebSocket
namespace Text
namespace Punycode

/-! ## Digits -/

/-- The digit of a value below 36. -/
def digit (d : Nat) : Char :=
  if d < 26 then Char.ofNat (d + 'a'.toNat) else Char.ofNat (d - 26 + '0'.toNat)

/-- The value of a digit.  The letters come before the digits, in either case. -/
def value? (c : Char) : Option Nat :=
  if 'a' ≤ c ∧ c ≤ 'z' then some (c.toNat - 'a'.toNat)
  else if 'A' ≤ c ∧ c ≤ 'Z' then some (c.toNat - 'A'.toNat)
  else if '0' ≤ c ∧ c ≤ '9' then some (c.toNat - '0'.toNat + 26)
  else none

/-- The threshold of the `k`-th digit, where `k` counts in steps of 36. -/
def threshold (bias k : Nat) : Nat :=
  if k ≤ bias then 1 else min 26 (k - bias)

theorem threshold_pos (bias k : Nat) : 0 < threshold bias k := by
  unfold threshold
  split <;> omega

/-! ## Adaptation -/

/-- The bias for numbers of the size of `delta`, on top of `offset`. -/
def scale (delta offset : Nat) : Nat :=
  if 455 < delta then scale (delta / 35) (offset + 36) else offset + 36 * delta / (delta + 38)
termination_by delta
decreasing_by exact Nat.div_lt_self (by omega) (by omega)

/-- The bias after a number, when the text has come to `count` characters.  The first number is
taken for a large one. -/
def adapt (delta count : Nat) (first : Bool) : Nat :=
  let delta := if first then delta / 700 else delta / 2
  scale (delta + delta / count) 0

/-- The bias of the first number. -/
def firstBias : Nat := 72

/-- The first code point that is not of ASCII. -/
def firstPoint : Nat := 128

/-! ## Writing -/

/-- The digits of a number from the `k`-th on. -/
def writeNumber (bias k n : Nat) : List Char :=
  let t := threshold bias k
  if n < t then [digit n]
  else digit (t + (n - t) % (36 - t)) :: writeNumber bias (k + 36) ((n - t) / (36 - t))
termination_by n
decreasing_by
  have := threshold_pos bias k
  have := Nat.div_le_self (n - threshold bias k) (36 - threshold bias k)
  omega

/-- How far writing has come: what has been written, latest first, the combinations passed over
since the last number, the bias, and how many characters stand in the text. -/
structure Writer where
  written : List Char
  delta : Nat
  bias : Nat
  count : Nat

/-- Passes a character of the text on the way to those with the code point `point`. -/
def Writer.pass (start point : Nat) (w : Writer) (c : Char) : Writer :=
  if c.toNat < point then { w with delta := w.delta + 1 }
  else if c.toNat = point then
    { written := (writeNumber w.bias 36 w.delta).reverse ++ w.written
      delta := 0
      bias := adapt w.delta (w.count + 1) (w.count == start)
      count := w.count + 1 }
  else w

/-- Writes the characters with the given code points, which ascend from `next` on. -/
def writePoints (text : List Char) (start : Nat) : (next : Nat) → List Nat → Writer → Writer
  | _, [], w => w
  | next, point :: rest, w =>
    let w := { w with delta := w.delta + (point - next) * (w.count + 1) }
    let w := text.foldl (Writer.pass start point) w
    writePoints text start (point + 1) rest { w with delta := w.delta + 1 }

/-- Puts a number in its place among ascending numbers, unless it is there. -/
def insert (n : Nat) : List Nat → List Nat
  | [] => [n]
  | m :: rest => if n < m then n :: m :: rest else if n = m then m :: rest else m :: insert n rest

/-- Whether a character is of ASCII. -/
def isAscii (c : Char) : Bool :=
  c.toNat < firstPoint

/-- The form of a text in ASCII. -/
def encode (text : List Char) : List Char :=
  let ascii := text.filter isAscii
  let points := ((text.filter (!isAscii ·)).map Char.toNat).foldr insert []
  let w := writePoints text ascii.length firstPoint points
    { written := []
      delta := 0
      bias := firstBias
      count := ascii.length }
  ascii ++ (if ascii.isEmpty then [] else ['-']) ++ w.written.reverse

/-! ## Reading -/

/-- Reads a number from its `k`-th digit on, and returns what follows it.  Each digit counts
`weight` times, which has to stay below 2 ^ 32. -/
def readNumber (bias : Nat) : (k weight : Nat) → List Char → Option (Nat × List Char)
  | _, _, [] => none
  | k, weight, c :: rest =>
    match value? c with
    | none => none
    | some d =>
      let t := threshold bias k
      if d < t then some (d * weight, rest)
      else if weight * (36 - t) < 0x100000000 then
        (readNumber bias (k + 36) (weight * (36 - t)) rest).map fun (n, rest) =>
          (d * weight + n, rest)
      else none

/-- A number takes at least one digit. -/
theorem length_lt_of_readNumber {bias k weight n : Nat} {cs rest : List Char}
    (h : readNumber bias k weight cs = some (n, rest)) : rest.length < cs.length := by
  induction cs generalizing k weight n with
  | nil => simp [readNumber] at h
  | cons c cs ih =>
    simp only [readNumber] at h
    split at h
    · simp at h
    · split at h
      · simp only [Option.some.injEq, Prod.mk.injEq] at h
        simp [← h.2]
      · split at h
        · simp only [Option.map_eq_some_iff, Prod.mk.injEq] at h
          obtain ⟨⟨m, r⟩, hr, _, rfl⟩ := h
          have : r.length < cs.length := ih hr
          simp only [List.length_cons]
          omega
        · simp at h

/-- Reads numbers and inserts their characters into `text`.  The last one had the code point
`point` and stands before `place`. -/
def readPoints (bias point place : Nat) (text cs : List Char) : Option (List Char) :=
  if cs.isEmpty then some text
  else
    match h : readNumber bias 36 1 cs with
    | none => none
    | some (n, rest) =>
      let count := text.length + 1
      let point := point + (place + n) / count
      let here := (place + n) % count
      if point.isValidChar then
        readPoints (adapt n count (place == 0)) point (here + 1)
          (text.insertIdx here (Char.ofNat point)) rest
      else none
termination_by cs.length
decreasing_by exact length_lt_of_readNumber h

/-- The text that a form in ASCII writes. -/
def decode? (cs : List Char) : Option (List Char) :=
  let tail := (cs.reverse.takeWhile (· != '-')).reverse
  let ascii := cs.take (cs.length - tail.length - 1)
  readPoints firstBias firstPoint 0 ascii (if ascii.isEmpty then cs else tail)

end Punycode
end Text
end WebSocket
