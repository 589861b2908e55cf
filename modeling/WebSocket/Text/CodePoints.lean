import WebSocket.Text.Numeral

/-
Classes of characters, given as tables of code points.  A table is a text of hexadecimal numerals
between blanks; its rows are read off the numbers, two numbers to a range and three to a range with
a value.
-/
namespace WebSocket
namespace Text
namespace CodePoints

/-- Takes up one character of a table: the numbers before it, latest first, and the one that is
being read. -/
def readDigit (state : List Nat × Option Nat) (c : Char) : List Nat × Option Nat :=
  match digit? 16 c, state.2 with
  | some d, some n => (state.1, some (16 * n + d))
  | some d, none => (state.1, some d)
  | none, some n => (n :: state.1, none)
  | none, none => state

/-- The numbers of a table. -/
def numbers (table : String) : List Nat :=
  let (done, current) := table.toList.foldl readDigit ([], none)
  (current.toList ++ done).reverse

/-- The rows of two numbers. -/
def pairs : List Nat → List (Nat × Nat)
  | a :: b :: rest => (a, b) :: pairs rest
  | _ => []

/-- The rows of three numbers. -/
def triples : List Nat → List (Nat × Nat × Nat)
  | a :: b :: c :: rest => (a, b, c) :: triples rest
  | _ => []

/-- The rows of four numbers. -/
def quadruples : List Nat → List (Nat × Nat × Nat × Nat)
  | a :: b :: c :: d :: rest => (a, b, c, d) :: quadruples rest
  | _ => []

/-- The rows of a number and a list of numbers, whose length stands before it. -/
def lists : List Nat → List (Nat × List Nat)
  | a :: count :: rest => (a, rest.take count) :: lists (rest.drop count)
  | _ => []
termination_by numbers => numbers.length
decreasing_by simp only [List.length_drop, List.length_cons]; omega

/-- The ranges of a table. -/
def ranges (table : String) : List (Nat × Nat) :=
  pairs (numbers table)

/-- Whether a code point lies in one of the ranges, both ends included. -/
def inRanges (ranges : List (Nat × Nat)) (n : Nat) : Bool :=
  ranges.any fun range => range.1 ≤ n && n ≤ range.2

/-- The value of the range that a code point lies in. -/
def value? (rows : List (Nat × Nat × Nat)) (n : Nat) : Option Nat :=
  (rows.find? fun row => row.1 ≤ n && n ≤ row.2.1).map fun row => row.2.2

end CodePoints
end Text
end WebSocket
