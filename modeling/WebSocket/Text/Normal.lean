import WebSocket.Text.Normal.Tables

/-
The normal form of texts: a letter and the marks on it are written as one character where there is
one, and the marks that are left stand in the order of their classes.  Texts that look alike for
this reason have one normal form.  The syllables of Korean are composed by arithmetic.
-/
namespace WebSocket
namespace Text
namespace Normal

/-- The class of a mark, which is zero for a character that stands by itself. -/
def combiningClass (c : Char) : Nat :=
  (CodePoints.value? classes c.toNat).getD 0

/-- The class of the marks that take the vowel from a letter. -/
def virama : Nat := 9

/-! ## Korean syllables -/

/-- The first syllable. -/
def syllableBase : Nat := 0xAC00

/-- Before the first leading consonant, vowel and trailing consonant.  The trailing consonants have
a place before the first of them for its absence. -/
def leadBase : Nat := 0x1100

/-- The first vowel. -/
def vowelBase : Nat := 0x1161

/-- The place before the first trailing consonant. -/
def trailBase : Nat := 0x11A7

/-- How many syllables there are. -/
def syllableCount : Nat := 19 * 21 * 28

/-- The parts of a syllable, by its place among the syllables. -/
def syllableParts (i : Nat) : List Char :=
  let trail := i % 28
  [Char.ofNat (leadBase + i / (21 * 28)), Char.ofNat (vowelBase + i / 28 % 21)] ++
    if trail = 0 then [] else [Char.ofNat (trailBase + trail)]

/-- The syllable that two characters make. -/
def syllable? (a b : Nat) : Option Nat :=
  if leadBase ≤ a && a < leadBase + 19 && vowelBase ≤ b && b < vowelBase + 21 then
    some (syllableBase + ((a - leadBase) * 21 + (b - vowelBase)) * 28)
  else if syllableBase ≤ a && a < syllableBase + syllableCount && (a - syllableBase) % 28 == 0 &&
      trailBase < b && b < trailBase + 28 then
    some (a + (b - trailBase))
  else none

/-! ## Taking apart -/

/-- The most characters that are composed one within the other. -/
def depth : Nat := 4

/-- The characters that a character is composed of, down to `fuel` levels. -/
def decomposeFrom : (fuel : Nat) → Char → List Char
  | 0, c => [c]
  | fuel + 1, c =>
    match compositions.lookup c.toNat with
    | some (a, b) => decomposeFrom fuel (Char.ofNat a) ++ decomposeFrom fuel (Char.ofNat b)
    | none => [c]

/-- The characters that a character is composed of. -/
def decompose (c : Char) : List Char :=
  if syllableBase ≤ c.toNat && c.toNat < syllableBase + syllableCount then
    syllableParts (c.toNat - syllableBase)
  else decomposeFrom depth c

/-! ## Order -/

/-- Puts a mark in front of marks in the order of their classes. -/
def insertMark (c : Char) : List Char → List Char
  | [] => [c]
  | d :: rest =>
    if 0 < combiningClass d && combiningClass d < combiningClass c then d :: insertMark c rest
    else c :: d :: rest

/-- Puts every run of marks in the order of their classes.  Marks of one class keep their order. -/
def order : List Char → List Char
  | [] => []
  | c :: rest => if combiningClass c = 0 then c :: order rest else insertMark c (order rest)

/-! ## Putting together -/

/-- The character that two characters make. -/
def compose? (a b : Char) : Option Char :=
  match syllable? a.toNat b.toNat with
  | some n => some (Char.ofNat n)
  | none =>
    (compositions.find? fun (_, x, y) => x == a.toNat && y == b.toNat).map fun (n, _, _) =>
      Char.ofNat n

/-- Composes what follows a character that stands by itself.  `kept` holds, latest first, the marks
that did not combine with it; a mark of the class of the latest of them cannot reach past it. -/
def composeFrom (start : Char) (kept : List Char) : List Char → List Char
  | [] => start :: kept.reverse
  | c :: rest =>
    let reaches := kept.head?.all fun d => combiningClass d < combiningClass c
    match (if reaches then compose? start c else none) with
    | some joined => composeFrom joined kept rest
    | none =>
      if combiningClass c = 0 then (start :: kept.reverse) ++ composeFrom c [] rest
      else composeFrom start (c :: kept) rest

/-- Composes characters as far as they compose. -/
def compose : List Char → List Char
  | [] => []
  | c :: rest => if combiningClass c = 0 then composeFrom c [] rest else c :: compose rest

/-- The normal form of a text. -/
def normalize (cs : List Char) : List Char :=
  compose (order (cs.flatMap decompose))

end Normal
end Text
end WebSocket
