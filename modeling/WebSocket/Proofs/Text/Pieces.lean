import Mathlib.Data.List.Infix
import WebSocket.Text

/-
Dividing a sequence at a separator.  The pieces with the separator between them make up the
sequence, and no piece holds the separator; where the separator does not overlap itself, as a line
end or a single character does not, this determines the pieces (`Sequence.split_eq_iff`) and what
stands before and after the first separator (`Sequence.cut?_eq_some_iff`).
-/
namespace WebSocket
namespace Sequence

variable {α : Type} [BEq α] [LawfulBEq α] {p s t : List α}

/-- No end of a pattern is also a start of it. -/
def Unbordered (p : List α) : Prop :=
  ∀ k < p.length, 0 < k → ¬ p.drop k <+: p

omit [BEq α] [LawfulBEq α] in
/-- Before a place where it stands, the pattern begins only where it also ends. -/
theorem Unbordered.not_prefix (hp : Unbordered p) (ht : ¬ p <:+: t) (hne : t ≠ []) (s : List α) :
    ¬ p <+: t ++ (p ++ s) := by
  intro hpre
  have htall : t <+: t ++ (p ++ s) := List.prefix_append ..
  rcases Nat.lt_or_ge t.length p.length with hlt | hge
  · -- it would reach into the one that stands there
    obtain ⟨u, rfl⟩ := List.prefix_of_prefix_length_le htall hpre (Nat.le_of_lt hlt)
    rw [List.prefix_append_right_inj] at hpre
    have hborder : u <+: t ++ u :=
      List.prefix_of_prefix_length_le hpre (List.prefix_append ..) (by simp)
    refine hp t.length hlt (List.length_pos_iff.mpr hne) ?_
    rw [List.drop_left' rfl]
    exact hborder
  · exact ht (List.prefix_of_prefix_length_le hpre htall hge).isInfix

/-! ## Pieces -/

omit [LawfulBEq α] in
theorem splitFrom_skip (p : List α) (skip : Nat) (piece s : List α) :
    splitFrom p skip piece s = splitFrom p 0 piece (s.drop skip) := by
  induction skip generalizing s with
  | zero => rfl
  | succ skip ih =>
    cases s with
    | nil => rfl
    | cons x s => rw [splitFrom, ih, List.drop_succ_cons]

omit [LawfulBEq α] in
theorem splitFrom_piece (p piece s : List α) :
    splitFrom p 0 piece s = (split p s).modifyHead (piece.reverse ++ ·) := by
  induction s generalizing piece with
  | nil => simp [split, splitFrom]
  | cons x s ih =>
    rw [split, splitFrom, splitFrom]
    by_cases hpre : p.isPrefixOf (x :: s)
    · simp [hpre]
    · rw [if_neg hpre, if_neg hpre, ih (x :: piece), ih [x], List.modifyHead_modifyHead]
      congr 1
      funext l
      simp

omit [LawfulBEq α] in
@[simp] theorem split_nil (p : List α) : split p [] = [[]] := rfl

theorem split_append (hne : p ≠ []) (s : List α) : split p (p ++ s) = [] :: split p s := by
  cases p with
  | nil => exact absurd rfl hne
  | cons x p =>
    have hpre : (x :: p).isPrefixOf (x :: (p ++ s)) = true :=
      List.isPrefixOf_iff_prefix.mpr (List.prefix_append (x :: p) s)
    rw [split, List.cons_append, splitFrom, if_pos hpre, splitFrom_skip, List.length_cons,
      Nat.add_sub_cancel, List.drop_left' rfl, split]
    rfl

theorem split_cons {x : α} (h : ¬ p <+: x :: s) :
    split p (x :: s) = (split p s).modifyHead (x :: ·) := by
  rw [split, splitFrom, if_neg fun hp => h (List.isPrefixOf_iff_prefix.mp hp), splitFrom_piece]
  rfl

omit [BEq α] [LawfulBEq α] in
/-- A sequence is read from the front as splitting reads it: a separator at a time, or an element
where none stands. -/
theorem split_induction {P : List α → Prop} (hne : p ≠ []) (nil : P [])
    (separator : ∀ s, P s → P (p ++ s)) (element : ∀ x s, ¬ p <+: x :: s → P s → P (x :: s))
    (s : List α) : P s := by
  induction h : s.length using Nat.strongRecOn generalizing s with
  | ind n ih =>
    match s with
    | [] => exact nil
    | x :: s =>
      by_cases hpre : p <+: x :: s
      · obtain ⟨t, ht⟩ := hpre
        rw [← ht] at h ⊢
        refine separator t (ih t.length ?_ t rfl)
        have := List.length_pos_iff.mpr hne
        rw [List.length_append] at h
        omega
      · exact element x s hpre (ih s.length (h ▸ Nat.lt_succ_self _) s rfl)

theorem split_ne_nil (hne : p ≠ []) (s : List α) : split p s ≠ [] := by
  induction s using split_induction hne with
  | nil => exact List.cons_ne_nil _ _
  | separator s ih => rw [split_append hne]; exact List.cons_ne_nil _ _
  | element x s hpre ih => rwa [split_cons hpre, ne_eq, List.modifyHead_eq_nil_iff]

/-- The pieces with the separator between them make up the sequence. -/
theorem intercalate_split (hne : p ≠ []) (s : List α) : p.intercalate (split p s) = s := by
  induction s using split_induction hne with
  | nil => rfl
  | separator s ih =>
    obtain ⟨first, rest, hsplit⟩ := List.exists_cons_of_ne_nil (split_ne_nil hne s)
    rw [hsplit] at ih
    rw [split_append hne, hsplit, List.intercalate_cons_cons, ih]
    rfl
  | element x s hpre ih =>
    obtain ⟨first, rest, hsplit⟩ := List.exists_cons_of_ne_nil (split_ne_nil hne s)
    rw [hsplit] at ih
    rw [split_cons hpre, hsplit, List.modifyHead_cons]
    cases rest with
    | nil => simpa using ih
    | cons second rest =>
      rw [List.intercalate_cons_cons] at ih ⊢
      rw [← ih, List.append_assoc, List.append_assoc, List.cons_append]

/-- No piece holds the separator. -/
theorem not_infix_of_mem_split (hne : p ≠ []) {piece : List α} (h : piece ∈ split p s) :
    ¬ p <:+: piece := by
  induction s using split_induction hne generalizing piece with
  | nil =>
    rw [split_nil, List.mem_singleton] at h
    rwa [h, List.infix_nil]
  | separator s ih =>
    rw [split_append hne] at h
    rcases List.mem_cons.mp h with rfl | h
    · rwa [List.infix_nil]
    · exact ih h
  | element x s hpre ih =>
    obtain ⟨first, rest, hsplit⟩ := List.exists_cons_of_ne_nil (split_ne_nil hne s)
    rw [hsplit] at ih
    rw [split_cons hpre, hsplit, List.modifyHead_cons] at h
    rcases List.mem_cons.mp h with rfl | h
    · rw [List.infix_cons_iff, not_or]
      refine ⟨fun hstart => hpre (hstart.trans ?_), ih List.mem_cons_self⟩
      -- the first piece stands at the front of the sequence
      have hfront : first <+: s := by
        rw [← intercalate_split hne s, hsplit]
        cases rest with
        | nil => simp
        | cons second rest =>
          rw [List.intercalate_cons_cons, List.append_assoc]
          exact List.prefix_append ..
      exact List.prefix_cons_inj x |>.mpr hfront
    · exact ih (List.mem_cons_of_mem _ h)

theorem split_of_not_infix (hne : p ≠ []) (h : ¬ p <:+: s) : split p s = [s] := by
  induction s using split_induction hne with
  | nil => rfl
  | separator s ih => exact absurd (List.prefix_append p s).isInfix h
  | element x s hpre ih =>
    rw [List.infix_cons_iff, not_or] at h
    rw [split_cons hpre, ih h.2, List.modifyHead_cons]

theorem Unbordered.split_append (hp : Unbordered p) (hne : p ≠ []) (ht : ¬ p <:+: t)
    (s : List α) : split p (t ++ (p ++ s)) = t :: split p s := by
  induction t with
  | nil => exact Sequence.split_append hne s
  | cons x t ih =>
    have hrest : ¬ p <:+: t := fun h => ht (h.trans (List.suffix_cons x t).isInfix)
    have hpre : ¬ p <+: x :: (t ++ (p ++ s)) := hp.not_prefix ht (List.cons_ne_nil x t) s
    rw [List.cons_append, split_cons hpre, ih hrest, List.modifyHead_cons]

/-- The pieces are those that make up the sequence and do not hold the separator. -/
theorem split_eq_iff (hp : Unbordered p) (hne : p ≠ []) {pieces : List (List α)} :
    split p s = pieces ↔
      pieces ≠ [] ∧ p.intercalate pieces = s ∧ ∀ piece ∈ pieces, ¬ p <:+: piece := by
  constructor
  · rintro rfl
    exact ⟨split_ne_nil hne s, intercalate_split hne s, fun _ => not_infix_of_mem_split hne⟩
  · rintro ⟨hpieces, rfl, hfree⟩
    induction pieces with
    | nil => exact absurd rfl hpieces
    | cons first rest ih =>
      have hfirst := hfree first List.mem_cons_self
      cases rest with
      | nil => simpa using split_of_not_infix hne hfirst
      | cons second rest =>
        have hrest := ih (List.cons_ne_nil _ _) fun piece h => hfree piece (List.mem_cons_of_mem _ h)
        rw [List.intercalate_cons_cons, List.append_assoc, hp.split_append hne hfirst, hrest]

/-- At a separator two sequences are divided apart. -/
theorem Unbordered.split_append_split (hp : Unbordered p) (hne : p ≠ []) (t s : List α) :
    split p (t ++ (p ++ s)) = split p t ++ split p s := by
  obtain ⟨hpieces, ht, hfree⟩ := (split_eq_iff (s := t) hp hne).mp rfl
  generalize split p t = pieces at *
  subst ht
  induction pieces with
  | nil => exact absurd rfl hpieces
  | cons first rest ih =>
    have hfirst := hfree first List.mem_cons_self
    cases rest with
    | nil => simpa using hp.split_append hne hfirst s
    | cons second rest =>
      have hrest := ih (List.cons_ne_nil _ _) fun piece h => hfree piece (List.mem_cons_of_mem _ h)
      rw [List.intercalate_cons_cons, List.append_assoc, List.append_assoc,
        hp.split_append hne hfirst, hrest]
      rfl

/-! ## The first separator -/

/-- A sequence is cut where the separator first stands. -/
theorem cut?_eq_some_iff (hp : Unbordered p) (hne : p ≠ []) {before after : List α} :
    cut? p s = some (before, after) ↔ s = before ++ (p ++ after) ∧ ¬ p <:+: before := by
  rw [cut?, Option.map_eq_some_iff]
  constructor
  · rintro ⟨i, hi, heq⟩
    obtain ⟨⟨rest, hrest⟩, hfirst⟩ := (find?_eq_some_iff hne).mp hi
    cases heq
    constructor
    · rw [← List.drop_drop, ← hrest, List.drop_left' rfl, hrest, List.take_append_drop]
    · rintro ⟨u, v, huv⟩
      have hlength := congrArg List.length huv
      have hpos := List.length_pos_iff.mpr hne
      simp only [List.length_append, List.length_take] at hlength
      refine hfirst u.length (by omega) ?_
      have hdrop : (s.take i).drop u.length = p ++ v := by
        rw [← huv, List.append_assoc, List.drop_left' rfl]
      rw [List.drop_take] at hdrop
      have hpre : p <+: (s.drop u.length).take (i - u.length) := hdrop ▸ List.prefix_append p v
      exact hpre.trans (List.take_prefix _ _)
  · rintro ⟨rfl, hbefore⟩
    refine ⟨before.length, (find?_eq_some_iff hne).mpr ⟨?_, fun j hj hpre => ?_⟩, ?_⟩
    · rw [List.drop_left' rfl]
      exact List.prefix_append p after
    · rw [List.drop_append_of_le_length (Nat.le_of_lt hj)] at hpre
      refine hp.not_prefix (fun h => hbefore (h.trans (List.drop_suffix j before).isInfix)) ?_ after
        hpre
      rw [ne_eq, List.drop_eq_nil_iff]
      omega
    · rw [List.take_left' rfl, ← List.drop_drop, List.drop_left' rfl, List.drop_left' rfl]

theorem occurs_iff : occurs p s = true ↔ p <:+: s := by
  by_cases hne : p = []
  · subst hne
    cases s <;> simp [occurs, find?, findFrom]
  · rw [occurs, Option.isSome_iff_ne_none, ne_eq, find?_eq_none_iff hne, Classical.not_not]

omit [BEq α] [LawfulBEq α] in
theorem unbordered_singleton (x : α) : Unbordered [x] := by
  intro k hk hpos
  simp only [List.length_singleton] at hk
  omega

end Sequence

namespace Text

variable {s separator : String}

theorem pieces_eq_iff (hp : Sequence.Unbordered separator.toList) (hne : separator.toList ≠ [])
    {ps : List String} :
    pieces separator s = ps ↔
      ps ≠ [] ∧ separator.intercalate ps = s ∧ ∀ piece ∈ ps, ¬ separator.toList <:+: piece.toList := by
  have hlists : pieces separator s = ps ↔
      Sequence.split separator.toList s.toList = ps.map String.toList := by
    rw [pieces]
    constructor
    · rintro rfl
      simp
    · intro h
      simp [h]
  rw [hlists, Sequence.split_eq_iff hp hne, ne_eq, List.map_eq_nil_iff, ← String.toList_inj,
    String.toList_intercalate]
  simp

theorem pieces_append (hp : Sequence.Unbordered separator.toList) (hne : separator.toList ≠ [])
    (s t : String) :
    pieces separator (s ++ separator ++ t) = pieces separator s ++ pieces separator t := by
  rw [pieces, pieces, pieces, ← List.map_append, ← hp.split_append_split hne]
  simp

theorem cut?_eq_some_iff (hp : Sequence.Unbordered separator.toList)
    (hne : separator.toList ≠ []) {before after : String} :
    cut? separator s = some (before, after) ↔
      s = before ++ separator ++ after ∧ ¬ separator.toList <:+: before.toList := by
  have hlists : cut? separator s = some (before, after) ↔
      Sequence.cut? separator.toList s.toList = some (before.toList, after.toList) := by
    rw [cut?, Option.map_eq_some_iff]
    constructor
    · rintro ⟨⟨b, a⟩, hcut, heq⟩
      cases heq
      simpa using hcut
    · intro hcut
      exact ⟨_, hcut, by simp⟩
  rw [hlists, Sequence.cut?_eq_some_iff hp hne, ← String.toList_inj]
  simp

theorem pieces_eq_iff_of_char {c : Char} (hc : separator.toList = [c]) {ps : List String} :
    pieces separator s = ps ↔
      ps ≠ [] ∧ separator.intercalate ps = s ∧ ∀ piece ∈ ps, c ∉ piece.toList := by
  have hp : Sequence.Unbordered separator.toList := hc ▸ Sequence.unbordered_singleton c
  have hne : separator.toList ≠ [] := hc ▸ List.cons_ne_nil c []
  simp only [pieces_eq_iff hp hne, hc, List.singleton_infix_iff]

theorem cut?_eq_some_iff_of_char {c : Char} (hc : separator.toList = [c]) {before after : String} :
    cut? separator s = some (before, after) ↔
      s = before ++ separator ++ after ∧ c ∉ before.toList := by
  have hp : Sequence.Unbordered separator.toList := hc ▸ Sequence.unbordered_singleton c
  have hne : separator.toList ≠ [] := hc ▸ List.cons_ne_nil c []
  simp only [cut?_eq_some_iff hp hne, hc, List.singleton_infix_iff]

theorem occurs_iff {part : String} : occurs part s = true ↔ part.toList <:+: s.toList :=
  Sequence.occurs_iff

theorem startsWith_iff {start : String} :
    startsWith start s = true ↔ ∃ rest, s = start ++ rest := by
  rw [startsWith, List.isPrefixOf_iff_prefix]
  constructor
  · rintro ⟨rest, hrest⟩
    refine ⟨String.ofList rest, String.toList_inj.mp ?_⟩
    simp [hrest]
  · rintro ⟨rest, rfl⟩
    simp

end Text
end WebSocket
