import WebSocket.Sequence
import WebSocket.Text.Blank

/-
Texts as the protocol compares and divides them: letter case counts in no header name and no
token, where only the letters of ASCII have a case; lines end in CR LF; and fields stand between
separators.
-/
namespace WebSocket
namespace Text

/-! ## Letter case -/

/-- The text with the capital letters of ASCII made small. -/
def fold (s : String) : String :=
  String.ofList (s.toList.map Char.toLower)

/-- Whether two texts differ at most in the case of ASCII letters. -/
def same (a b : String) : Bool :=
  fold a == fold b

theorem same_iff {a b : String} : same a b = true ↔ fold a = fold b := by
  simp [same]

@[simp] theorem same_refl (a : String) : same a a = true := by
  simp [same]

theorem same_comm (a b : String) : same a b = same b a := by
  exact BEq.comm

theorem same_trans {a b c : String} (hab : same a b = true) (hbc : same b c = true) :
    same a c = true := by
  rw [same_iff] at *
  rw [hab, hbc]

/-! ## Parts -/

/-- The pieces of a text between the occurrences of a separator. -/
def pieces (separator s : String) : List String :=
  (Sequence.split separator.toList s.toList).map String.ofList

/-- What stands before the first occurrence of a separator, and what stands after it. -/
def cut? (separator s : String) : Option (String × String) :=
  (Sequence.cut? separator.toList s.toList).map fun (before, after) =>
    (String.ofList before, String.ofList after)

/-- Whether a text occurs in another one. -/
def occurs (part s : String) : Bool :=
  Sequence.occurs part.toList s.toList

/-- The text with `replacement` in place of every occurrence of `pattern`. -/
def replace (pattern replacement s : String) : String :=
  String.ofList (Sequence.replace pattern.toList replacement.toList s.toList)

/-- Whether a text starts with another one. -/
def startsWith (start s : String) : Bool :=
  start.toList.isPrefixOf s.toList

/-- The lines of a text, where CR LF ends a line. -/
def lines (s : String) : List String :=
  pieces "\r\n" s

/-- Whether one of the comma-separated pieces of a list is the token, whatever its letter case. -/
def listHas (token list : String) : Bool :=
  (pieces "," list).any fun piece => same (trim piece) token

/-- The longest start of a text that takes at most `limit` bytes in UTF-8. -/
def clip (limit : Nat) (s : String) : String :=
  String.ofList (go limit s.toList)
where
  /-- The characters that fit, taken from the front. -/
  go : Nat → List Char → List Char
    | _, [] => []
    | limit, c :: rest =>
      if c.utf8Size ≤ limit then c :: go (limit - c.utf8Size) rest else []

/-- A clipped text fits. -/
theorem utf8ByteSize_clip_le (limit : Nat) (s : String) : (clip limit s).utf8ByteSize ≤ limit := by
  have hgo : ∀ (l : List Char) limit, (String.ofList (clip.go limit l)).utf8ByteSize ≤ limit := by
    intro l
    induction l with
    | nil =>
      intro limit
      exact Nat.zero_le _
    | cons c rest ih =>
      intro limit
      rw [clip.go]
      by_cases hc : c.utf8Size ≤ limit
      · have h := ih (limit - c.utf8Size)
        rw [if_pos hc, String.ofList_cons, String.utf8ByteSize_append,
          String.utf8ByteSize_singleton]
        omega
      · rw [if_neg hc]
        exact Nat.zero_le _
  exact hgo s.toList limit

/-- A text that fits is not clipped. -/
theorem clip_eq_self {limit : Nat} {s : String} (h : s.utf8ByteSize ≤ limit) :
    clip limit s = s := by
  have hgo : ∀ (l : List Char) limit, (String.ofList l).utf8ByteSize ≤ limit →
      clip.go limit l = l := by
    intro l
    induction l with
    | nil =>
      intro limit _
      rfl
    | cons c rest ih =>
      intro limit hl
      rw [String.ofList_cons, String.utf8ByteSize_append, String.utf8ByteSize_singleton] at hl
      rw [clip.go, if_pos (by omega), ih _ (by omega)]
  rw [clip, hgo s.toList limit (by rwa [String.ofList_toList]), String.ofList_toList]

end Text
end WebSocket
