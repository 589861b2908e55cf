/-
Looking for a pattern in a sequence: where it first occurs, the sequence cut there, and the
sequence split at every occurrence.  Header blocks end at a blank line, lines at a line end and
names at a colon, so the same search serves bytes and characters.  Each function is structural
in the sequence, so that the kernel reduces it.
-/
namespace WebSocket
namespace Sequence

variable {α : Type} [BEq α]

/-- Where `pattern` first occurs in a sequence whose first element has the index `start`. -/
def findFrom (pattern : List α) : (start : Nat) → List α → Option Nat
  | start, [] => if pattern.isEmpty then some start else none
  | start, x :: rest =>
    if pattern.isPrefixOf (x :: rest) then some start else findFrom pattern (start + 1) rest

/-- Where `pattern` first occurs. -/
def find? (pattern s : List α) : Option Nat :=
  findFrom pattern 0 s

/-- Whether `pattern` occurs. -/
def occurs (pattern s : List α) : Bool :=
  (find? pattern s).isSome

/-- What stands before the first occurrence of `pattern`, and what stands after it. -/
def cut? (pattern s : List α) : Option (List α × List α) :=
  (find? pattern s).map fun i => (s.take i, s.drop (i + pattern.length))

/-- The rest of a split: `skip` elements still belong to the separator just met, and `piece`
holds the current piece in reverse. -/
def splitFrom (pattern : List α) : (skip : Nat) → (piece : List α) → List α → List (List α)
  | _, piece, [] => [piece.reverse]
  | skip + 1, piece, _ :: rest => splitFrom pattern skip piece rest
  | 0, piece, x :: rest =>
    if pattern.isPrefixOf (x :: rest) then
      piece.reverse :: splitFrom pattern (pattern.length - 1) [] rest
    else
      splitFrom pattern 0 (x :: piece) rest

/-- The pieces between the occurrences of `pattern`, read from the front.  There is always at
least one piece, and every one may be empty. -/
def split (pattern s : List α) : List (List α) :=
  splitFrom pattern 0 [] s

/-- The sequence with `replacement` in place of every occurrence of `pattern`. -/
def replace (pattern replacement s : List α) : List α :=
  replacement.intercalate (split pattern s)

/-- The sum of a measure over a sequence. -/
def total (measure : α → Nat) : List α → Nat
  | [] => 0
  | x :: rest => measure x + total measure rest

/-! ## First occurrences -/

theorem findFrom_eq (pattern : List α) (start : Nat) (s : List α) :
    findFrom pattern start s = (find? pattern s).map (start + ·) := by
  suffices h : ∀ k, findFrom pattern (start + k) s = (findFrom pattern k s).map (start + ·) by
    simpa [find?] using h 0
  induction s with
  | nil => intro k; by_cases h : pattern.isEmpty <;> simp [findFrom, h]
  | cons x rest ih =>
    intro k
    by_cases h : pattern.isPrefixOf (x :: rest)
    · simp [findFrom, h]
    · simp only [findFrom, h]
      exact ih (k + 1)

theorem find?_cons (pattern : List α) (x : α) (rest : List α) :
    find? pattern (x :: rest) =
      if pattern.isPrefixOf (x :: rest) then some 0
      else (find? pattern rest).map (1 + ·) := by
  by_cases h : pattern.isPrefixOf (x :: rest)
  · simp [find?, findFrom, h]
  · simp only [find?, findFrom, h]
    exact findFrom_eq pattern 1 rest

/-- An occurrence lies inside the sequence. -/
theorem find?_add_length_le {pattern s : List α} [LawfulBEq α] {i : Nat}
    (h : find? pattern s = some i) : i + pattern.length ≤ s.length := by
  induction s generalizing i with
  | nil =>
    cases pattern with
    | nil => simp [find?, findFrom] at h; simp [← h]
    | cons a p => simp [find?, findFrom] at h
  | cons x rest ih =>
    rw [find?_cons] at h
    split at h
    · rename_i hp
      simp only [Option.some.injEq] at h
      subst h
      have := (List.isPrefixOf_iff_prefix.mp hp).length_le
      omega
    · cases hr : find? pattern rest with
      | none => simp [hr] at h
      | some j =>
        simp only [hr, Option.map_some, Option.some.injEq] at h
        have := ih hr
        simp only [List.length_cons]
        omega

/-- An occurrence is where the pattern stands, and it stands nowhere before. -/
theorem find?_eq_some_iff {pattern s : List α} [LawfulBEq α] (hp : pattern ≠ []) {i : Nat} :
    find? pattern s = some i ↔
      pattern <+: s.drop i ∧ ∀ j < i, ¬ pattern <+: s.drop j := by
  induction s generalizing i with
  | nil =>
    have hn : find? pattern ([] : List α) = none := by
      simp [find?, findFrom, hp]
    rw [hn, List.drop_nil]
    constructor
    · intro h
      cases h
    · rintro ⟨h, -⟩
      exact absurd (List.prefix_nil.mp h) hp
  | cons x rest ih =>
    rw [find?_cons]
    by_cases h : pattern.isPrefixOf (x :: rest)
    · rw [if_pos h]
      have hpre : pattern <+: x :: rest := List.isPrefixOf_iff_prefix.mp h
      cases i with
      | zero => simpa using hpre
      | succ i =>
        constructor
        · intro he
          cases he
        · rintro ⟨-, hnone⟩
          exact absurd hpre (hnone 0 (Nat.succ_pos i))
    · rw [if_neg h]
      have hpre : ¬ pattern <+: x :: rest := fun hp => h (List.isPrefixOf_iff_prefix.mpr hp)
      cases i with
      | zero =>
        constructor
        · intro he
          obtain ⟨j, -, hj⟩ := Option.map_eq_some_iff.mp he
          omega
        · rintro ⟨hz, -⟩
          exact absurd hz hpre
      | succ i =>
        have hmap : (find? pattern rest).map (1 + ·) = some (i + 1) ↔
            find? pattern rest = some i := by
          rw [Option.map_eq_some_iff]
          constructor
          · rintro ⟨j, hj, he⟩
            have : j = i := by omega
            exact this ▸ hj
          · intro hj
            exact ⟨i, hj, Nat.add_comm 1 i⟩
        rw [hmap, ih, List.drop_succ_cons]
        constructor
        · rintro ⟨hi, hnone⟩
          refine ⟨hi, fun j hj => ?_⟩
          cases j with
          | zero => exact hpre
          | succ j => exact hnone j (Nat.lt_of_succ_lt_succ hj)
        · rintro ⟨hi, hnone⟩
          exact ⟨hi, fun j hj => hnone (j + 1) (Nat.succ_lt_succ hj)⟩

theorem find?_eq_none_iff {pattern s : List α} [LawfulBEq α] (hp : pattern ≠ []) :
    find? pattern s = none ↔ ¬ pattern <:+: s := by
  induction s with
  | nil => simp [find?, findFrom, hp]
  | cons x rest ih =>
    rw [find?_cons, List.infix_cons_iff, not_or, ← ih]
    by_cases h : pattern.isPrefixOf (x :: rest)
    · simp [h, List.isPrefixOf_iff_prefix.mp h]
    · have hpre : ¬ pattern <+: x :: rest := fun hp => h (List.isPrefixOf_iff_prefix.mpr hp)
      simp [h, hpre]

/-- The first occurrence stays the first one when more follows. -/
theorem find?_append {pattern s : List α} [LawfulBEq α] {i : Nat}
    (h : find? pattern s = some i) (t : List α) : find? pattern (s ++ t) = some i := by
  by_cases hp : pattern = []
  · subst hp
    cases s <;> cases t <;> simp_all [find?, findFrom]
  · have hle := find?_add_length_le h
    rw [find?_eq_some_iff hp] at h ⊢
    have hdrop : ∀ j ≤ i, (s ++ t).drop j = s.drop j ++ t := fun j hj =>
      List.drop_append_of_le_length (by omega)
    refine ⟨?_, fun j hj hpre => h.2 j hj ?_⟩
    · rw [hdrop i (Nat.le_refl i)]
      exact h.1.trans (List.prefix_append _ _)
    · rw [hdrop j (Nat.le_of_lt hj)] at hpre
      refine List.prefix_of_prefix_length_le hpre (List.prefix_append _ _) ?_
      rw [List.length_drop]
      omega

end Sequence
end WebSocket
