import WebSocket.Bytes
import WebSocket.Sequence

/-
The head of an HTTP message: everything up to and with the first blank line.
-/
namespace WebSocket
namespace Http

/-- The end of a line. -/
def lineEnd : Bytes := [13, 10]

/-- A line end and a blank line. -/
def headEnd : Bytes := lineEnd ++ lineEnd

/-- Where the head at the front of a byte string ends, if it does. -/
def headSize? (d : Bytes) : Option Nat :=
  (Sequence.find? headEnd d).map (· + headEnd.length)

/-- A head lies inside its byte string. -/
theorem headSize?_le {d : Bytes} {n : Nat} (h : headSize? d = some n) : n ≤ d.length := by
  unfold headSize? at h
  cases hf : Sequence.find? headEnd d with
  | none => simp [hf] at h
  | some i =>
    simp only [hf, Option.map_some, Option.some.injEq] at h
    have := Sequence.find?_add_length_le hf
    omega

/-- A head holds at least its blank line. -/
theorem four_le_headSize? {d : Bytes} {n : Nat} (h : headSize? d = some n) : 4 ≤ n := by
  unfold headSize? at h
  cases hf : Sequence.find? headEnd d with
  | none => simp [hf] at h
  | some i =>
    simp only [hf, Option.map_some, Option.some.injEq] at h
    simp [headEnd, lineEnd] at h
    omega

/-- The first blank line of a byte string ends at a place. -/
def HeadEndsAt (d : Bytes) (n : Nat) : Prop :=
  ∃ i, n = i + headEnd.length ∧ headEnd <+: d.drop i ∧ ∀ j < i, ¬ headEnd <+: d.drop j

theorem headSize?_eq_some_iff {d : Bytes} {n : Nat} : headSize? d = some n ↔ HeadEndsAt d n := by
  have hne : headEnd ≠ [] := by simp [headEnd, lineEnd]
  rw [headSize?, Option.map_eq_some_iff]
  constructor
  · rintro ⟨i, hi, rfl⟩
    exact ⟨i, rfl, (Sequence.find?_eq_some_iff hne).mp hi⟩
  · rintro ⟨i, rfl, hi⟩
    exact ⟨i, (Sequence.find?_eq_some_iff hne).mpr hi, rfl⟩

theorem headSize?_eq_none_iff {d : Bytes} : headSize? d = none ↔ ¬ headEnd <:+: d := by
  rw [headSize?, Option.map_eq_none_iff,
    Sequence.find?_eq_none_iff (by simp [headEnd, lineEnd])]

/-- A head that has ended is the same whatever follows. -/
theorem headSize?_append {d : Bytes} {n : Nat} (h : headSize? d = some n) (t : Bytes) :
    headSize? (d ++ t) = some n := by
  obtain ⟨i, hi, hn⟩ := Option.map_eq_some_iff.mp h
  rw [headSize?, Sequence.find?_append hi, Option.map_some, hn]

theorem exists_take_eq {d : Bytes} {n : Nat} (h : headSize? d = some n) :
    ∃ front, d.take n = front ++ headEnd := by
  obtain ⟨i, rfl, ⟨rest, hrest⟩, -⟩ := headSize?_eq_some_iff.mp h
  refine ⟨d.take i, ?_⟩
  rw [List.take_add, ← hrest, List.take_left' rfl]

/-- A head ends where it ends whatever is cut off behind it. -/
theorem headSize?_take {d : Bytes} {n : Nat} (h : headSize? d = some n) :
    headSize? (d.take n) = some n := by
  cases ht : headSize? (d.take n) with
  | some m => rw [← headSize?_append ht (d.drop n), List.take_append_drop, h]
  | none =>
    obtain ⟨front, hfront⟩ := exists_take_eq h
    refine absurd ?_ (headSize?_eq_none_iff.mp ht)
    rw [hfront]
    exact (List.suffix_append front headEnd).isInfix

/-- A head that ends only with what follows is longer than what was there before. -/
theorem lt_headSize?_append {d t : Bytes} {n : Nat} (hd : headSize? d = none)
    (h : headSize? (d ++ t) = some n) : d.length < n := by
  obtain ⟨i, hi, hn⟩ := Option.map_eq_some_iff.mp h
  have hne : headEnd ≠ [] := by simp [headEnd, lineEnd]
  have hpre := ((Sequence.find?_eq_some_iff hne).mp hi).1
  refine Nat.lt_of_not_le fun hle => headSize?_eq_none_iff.mp hd ?_
  have hlen : headEnd.length ≤ (d.drop i).length := by
    rw [List.length_drop]
    omega
  rw [List.drop_append_of_le_length (by omega)] at hpre
  have hin : headEnd <+: d.drop i :=
    List.prefix_of_prefix_length_le hpre (List.prefix_append _ _) hlen
  exact hin.isInfix.trans (List.drop_suffix i d).isInfix

end Http
end WebSocket
