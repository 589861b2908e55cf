import Mathlib.Data.List.Infix
import WebSocket.Text

/-
Texts that stand on one line.  In some no line breaks at all, in some no space stands either, in
some no blank of any kind.  What is unbroken ends no line of the text that it is written behind
(`Text.whole_append_iff`), and what is dense is not trimmed (`Text.trim_eq_self`).
-/
namespace WebSocket
namespace Text

/-- A text in which no line breaks. -/
def IsUnbroken (s : String) : Prop :=
  ∀ c ∈ s.toList, c ≠ '\r' ∧ c ≠ '\n'

/-- A text in which no line breaks and no space stands. -/
def IsSolid (s : String) : Prop :=
  ∀ c ∈ s.toList, c ≠ ' ' ∧ c ≠ '\r' ∧ c ≠ '\n'

/-- A text in which no blank stands. -/
def IsDense (s : String) : Prop :=
  ∀ c ∈ s.toList, isBlank c = false

-- Named in full, since the search may find the instance that runs through all characters.
instance (s : String) : Decidable (IsUnbroken s) :=
  List.decidableBAll _ s.toList

instance (s : String) : Decidable (IsSolid s) :=
  List.decidableBAll _ s.toList

instance (s : String) : Decidable (IsDense s) :=
  List.decidableBAll _ s.toList

variable {s t : String}

theorem IsSolid.unbroken (h : IsSolid s) : IsUnbroken s :=
  fun c hc => (h c hc).2

theorem IsSolid.append (hs : IsSolid s) (ht : IsSolid t) : IsSolid (s ++ t) := by
  intro c hc
  rw [String.toList_append] at hc
  exact (List.mem_append.mp hc).elim (hs c) (ht c)

theorem IsUnbroken.append (hs : IsUnbroken s) (ht : IsUnbroken t) : IsUnbroken (s ++ t) := by
  intro c hc
  rw [String.toList_append] at hc
  exact (List.mem_append.mp hc).elim (hs c) (ht c)

theorem IsUnbroken.whole (h : IsUnbroken s) : ¬ "\r\n".toList <:+: s.toList :=
  fun hin => (h '\r' (hin.subset List.mem_cons_self)).1 rfl

theorem isDigit_of_mem_toString {n : Nat} {c : Char} (hc : c ∈ (toString n).toList) :
    c.isDigit = true :=
  Nat.isDigit_of_mem_toDigits (by decide) (Nat.le_refl 10) (by simpa [toString, Nat.repr] using hc)

theorem isSolid_toString (n : Nat) : IsSolid (toString n) := by
  intro c hc
  have hdigit := isDigit_of_mem_toString hc
  refine ⟨?_, ?_, ?_⟩ <;> rintro rfl <;> exact absurd hdigit (by decide)

/-- Behind a text, what is unbroken and does not start with a line feed brings no line end. -/
theorem whole_append_iff (ht : IsUnbroken t) :
    "\r\n".toList <:+: (s ++ t).toList ↔ "\r\n".toList <:+: s.toList := by
  rw [String.toList_append]
  refine ⟨fun h => ?_, fun h => h.trans (List.prefix_append _ _).isInfix⟩
  rcases List.infix_append_iff.mp h with hin | hin | ⟨front, back, heq, hfront, hback⟩
  · exact hin
  · exact absurd hin ht.whole
  · cases hb : back with
    | nil =>
      rw [hb, List.append_nil] at heq
      exact heq ▸ hfront.isInfix
    | cons x rest =>
      -- the end of the pattern, a line feed, stands in the second text
      have hlast : '\n' ∈ back := by
        have hgetLast := congrArg List.getLast? heq
        rw [hb, List.getLast?_append_cons, ← hb] at hgetLast
        exact List.mem_of_getLast? hgetLast.symm
      exact absurd rfl (ht '\n' (hback.subset hlast)).2

/-! ## Blanks -/

theorem IsDense.append (hs : IsDense s) (ht : IsDense t) : IsDense (s ++ t) := by
  intro c hc
  rw [String.toList_append] at hc
  exact (List.mem_append.mp hc).elim (hs c) (ht c)

theorem isDense_intercalate {separator : String} {parts : List String}
    (hseparator : IsDense separator) (hparts : ∀ part ∈ parts, IsDense part) :
    IsDense (separator.intercalate parts) := by
  induction parts with
  | nil =>
    rw [String.intercalate_nil]
    decide
  | cons first rest ih =>
    obtain ⟨hfirst, hrest⟩ := List.forall_mem_cons.mp hparts
    cases rest with
    | nil =>
      rw [String.intercalate_singleton]
      exact hfirst
    | cons second rest =>
      rw [String.intercalate_cons_cons]
      exact (hfirst.append hseparator).append (ih hrest)

/-- A text without blanks keeps all of it. -/
theorem trim_eq_self (h : IsDense s) : trim s = s := by
  have hkeep : ∀ cs : List Char, (∀ c ∈ cs, isBlank c = false) → cs.dropWhile isBlank = cs := by
    intro cs hcs
    cases cs with
    | nil => rfl
    | cons c cs =>
      have hc := hcs c List.mem_cons_self
      rw [List.dropWhile_cons_of_neg (by simp [hc])]
  have hreverse : ∀ c ∈ s.toList.reverse, isBlank c = false := fun c hc =>
    h c (List.mem_reverse.mp hc)
  rw [trim, trimBlanks, hkeep _ h, hkeep _ hreverse, List.reverse_reverse, String.ofList_toList]

theorem isDense_toString (n : Nat) : IsDense (toString n) := by
  intro c hc
  have hdigit := isDigit_of_mem_toString hc
  simp only [Char.isDigit, Bool.and_eq_true, decide_eq_true_eq, ge_iff_le,
    UInt32.le_iff_toNat_le] at hdigit
  have hlow : 48 ≤ c.toNat := hdigit.1
  have hhigh : c.toNat ≤ 57 := hdigit.2
  simp only [isBlank]
  grind

theorem trim_toString (n : Nat) : trim (toString n) = toString n :=
  trim_eq_self (isDense_toString n)

end Text
end WebSocket
