import Mathlib.Data.List.TakeWhile
import WebSocket.Proofs.Text.Pieces

/-
Blanks at the ends of a text.  Trimming takes away blanks and nothing else (`Text.exists_trim`), and
where no separator is blank it takes them from the first and from the last piece only.  So the
pieces of a trimmed text are those of the text itself, once each of them is trimmed
(`Text.map_trim_pieces`).
-/
namespace WebSocket
namespace Text

variable {s t separator : String} {c : Char}

/-- A text of blanks. -/
def IsBlanks (s : String) : Prop :=
  ∀ c ∈ s.toList, isBlank c = true

-- Named in full, since the search may find the instance that runs through all characters.
instance (s : String) : Decidable (IsBlanks s) :=
  List.decidableBAll _ s.toList

/-! ## Trimming -/

theorem trim_blanks_append (ht : IsBlanks t) (s : String) : trim (t ++ s) = trim s := by
  rw [trim, trim, trimBlanks, trimBlanks, String.toList_append, List.dropWhile_append_of_pos ht]

theorem trim_append_blanks (ht : IsBlanks t) (s : String) : trim (s ++ t) = trim s := by
  have hback : ∀ c ∈ t.toList.reverse, isBlank c = true := fun c hc => ht c (List.mem_reverse.mp hc)
  rw [trim, trim, trimBlanks, trimBlanks, String.toList_append, List.dropWhile_append]
  split
  · -- all of the text is blank
    rename_i hempty
    rw [List.isEmpty_iff.mp hempty, List.dropWhile_eq_nil_iff.mpr ht]
  · rw [List.reverse_append, List.dropWhile_append_of_pos hback]

theorem exists_trim (s : String) :
    ∃ front back, IsBlanks front ∧ IsBlanks back ∧ s = front ++ trim s ++ back := by
  have hfront : ∀ c ∈ s.toList.takeWhile isBlank, isBlank c = true :=
    fun c hc => List.all_eq_true.mp List.all_takeWhile c hc
  generalize hrest : s.toList.dropWhile isBlank = rest
  have hback : ∀ c ∈ rest.reverse.takeWhile isBlank, isBlank c = true :=
    fun c hc => List.all_eq_true.mp List.all_takeWhile c hc
  refine ⟨.ofList (s.toList.takeWhile isBlank), .ofList (rest.reverse.takeWhile isBlank).reverse,
    by simpa [IsBlanks] using hfront, by simpa [IsBlanks] using hback, ?_⟩
  have hrest' : (rest.reverse.dropWhile isBlank).reverse ++
      (rest.reverse.takeWhile isBlank).reverse = rest := by
    rw [← List.reverse_append, List.takeWhile_append_dropWhile, List.reverse_reverse]
  rw [← String.toList_inj]
  simp only [trim, trimBlanks, String.toList_append, String.toList_ofList, List.append_assoc, hrest,
    hrest']
  rw [← hrest, List.takeWhile_append_dropWhile]

@[simp] theorem trim_trim (s : String) : trim (trim s) = trim s := by
  obtain ⟨front, back, hfront, hback, hs⟩ := exists_trim s
  have htrim : trim s = trim (front ++ trim s ++ back) := congrArg trim hs
  rw [trim_append_blanks hback, trim_blanks_append hfront] at htrim
  exact htrim.symm

/-! ## Pieces -/

theorem exists_pieces_eq_cons (hc : separator.toList = [c]) (s : String) :
    ∃ first rest, pieces separator s = first :: rest := by
  obtain ⟨hne, -⟩ := (pieces_eq_iff_of_char hc).mp (rfl : pieces separator s = _)
  exact List.exists_cons_of_ne_nil hne

/-- What stands in front of a text, without a separator, stands in front of its first piece. -/
theorem pieces_append_of_cons (hc : separator.toList = [c]) (ht : c ∉ t.toList) {first : String}
    {rest : List String} (hs : pieces separator s = first :: rest) :
    pieces separator (t ++ s) = (t ++ first) :: rest := by
  obtain ⟨-, hwhole, hfree⟩ := (pieces_eq_iff_of_char hc).mp hs
  obtain ⟨hfirst, hrest⟩ := List.forall_mem_cons.mp hfree
  refine (pieces_eq_iff_of_char hc).mpr
    ⟨List.cons_ne_nil _ _, ?_, List.forall_mem_cons.mpr ⟨?_, hrest⟩⟩
  · rw [← hwhole]
    cases rest with
    | nil => simp
    | cons second rest => simp only [String.intercalate_cons_cons, String.append_assoc]
  · rw [String.toList_append, List.mem_append, not_or]
    exact ⟨ht, hfirst⟩

/-- What stands behind a text, without a separator, stands behind its last piece. -/
theorem pieces_append_of_concat (hc : separator.toList = [c]) (ht : c ∉ t.toList) {last : String}
    {front : List String} (hs : pieces separator s = front ++ [last]) :
    pieces separator (s ++ t) = front ++ [last ++ t] := by
  obtain ⟨-, hwhole, hfree⟩ := (pieces_eq_iff_of_char hc).mp hs
  obtain ⟨hfront, hlasts⟩ := List.forall_mem_append.mp hfree
  have hlast : c ∉ last.toList := hlasts last List.mem_cons_self
  have hlast' : c ∉ (last ++ t).toList := by
    rw [String.toList_append, List.mem_append, not_or]
    exact ⟨hlast, ht⟩
  have hpieces : ∀ piece ∈ front ++ [last ++ t], c ∉ piece.toList :=
    List.forall_mem_append.mpr ⟨hfront, fun piece hmem => List.mem_singleton.mp hmem ▸ hlast'⟩
  refine (pieces_eq_iff_of_char hc).mpr ⟨by simp, ?_, hpieces⟩
  rw [← hwhole]
  cases front with
  | nil => simp
  | cons first rest =>
    have hne : first :: rest ≠ [] := List.cons_ne_nil _ _
    have hone (piece : String) : [piece] ≠ [] := List.cons_ne_nil _ _
    simp only [String.intercalate_append_of_ne_nil hne (hone _), String.intercalate_singleton,
      String.append_assoc]

theorem map_trim_pieces_blanks_append (hc : separator.toList = [c]) (hsolid : isBlank c = false)
    (ht : IsBlanks t) (s : String) :
    (pieces separator (t ++ s)).map trim = (pieces separator s).map trim := by
  have hfree : c ∉ t.toList := fun hmem => by simp [ht c hmem] at hsolid
  obtain ⟨first, rest, hs⟩ := exists_pieces_eq_cons hc s
  rw [pieces_append_of_cons hc hfree hs, hs, List.map_cons, List.map_cons, trim_blanks_append ht]

theorem map_trim_pieces_append_blanks (hc : separator.toList = [c]) (hsolid : isBlank c = false)
    (ht : IsBlanks t) (s : String) :
    (pieces separator (s ++ t)).map trim = (pieces separator s).map trim := by
  have hfree : c ∉ t.toList := fun hmem => by simp [ht c hmem] at hsolid
  obtain ⟨hne, -⟩ := (pieces_eq_iff_of_char hc).mp (rfl : pieces separator s = _)
  have hs := (List.dropLast_concat_getLast hne).symm
  rw [pieces_append_of_concat hc hfree hs]
  nth_rewrite 3 [hs]
  rw [List.map_append, List.map_append, List.map_singleton, List.map_singleton,
    trim_append_blanks ht]

/-- Blanks around a text make no difference to its pieces without the blanks around them. -/
theorem map_trim_pieces (hc : separator.toList = [c]) (hsolid : isBlank c = false) (s : String) :
    (pieces separator (trim s)).map trim = (pieces separator s).map trim := by
  obtain ⟨front, back, hfront, hback, hs⟩ := exists_trim s
  have hpieces := map_trim_pieces_append_blanks hc hsolid hback (front ++ trim s)
  rw [← hs, map_trim_pieces_blanks_append hc hsolid hfront] at hpieces
  exact hpieces.symm

end Text
end WebSocket
