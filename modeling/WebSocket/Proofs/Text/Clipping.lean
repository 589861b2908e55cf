import Mathlib.Data.List.Infix
import WebSocket.Bytes
import WebSocket.Text

/-
Where a text is clipped.  `Text.clip` keeps characters from the front as long as they fit, so that
what it keeps is the longest start that fits (`Text.isLongestStart_clip`).  The same place is found
from the limit back, byte by byte: the search meets a boundary between two characters, at the latest
the one at the front, and the bytes before the first one that it meets are those of the clipped text
(`Text.clipBack?_eq`).
-/
namespace WebSocket
namespace Text

/-- A start of a text that takes at most `limit` bytes in UTF-8, while no longer one does. -/
structure IsLongestStart (limit : Nat) (s start : String) : Prop where
  starts : start.toList <+: s.toList
  fits : start.utf8ByteSize ≤ limit
  longest : ∀ t : String, t.toList <+: s.toList → t.utf8ByteSize ≤ limit →
    t.toList <+: start.toList

theorem go_prefix (limit : Nat) (l : List Char) : clip.go limit l <+: l := by
  induction l generalizing limit with
  | nil => exact List.nil_prefix
  | cons c rest ih =>
    rw [clip.go]
    split
    · exact List.cons_prefix_cons.mpr ⟨rfl, ih _⟩
    · exact List.nil_prefix

theorem prefix_go {limit : Nat} {t l : List Char} (h : t <+: l)
    (hfits : (String.ofList t).utf8ByteSize ≤ limit) : t <+: clip.go limit l := by
  induction l generalizing limit t with
  | nil => exact h
  | cons c rest ih =>
    cases t with
    | nil => exact List.nil_prefix
    | cons d t =>
      obtain ⟨rfl, ht⟩ := List.cons_prefix_cons.mp h
      rw [String.ofList_cons, String.utf8ByteSize_append, String.utf8ByteSize_singleton] at hfits
      rw [clip.go, if_pos (by omega)]
      exact List.cons_prefix_cons.mpr ⟨rfl, ih ht (by omega)⟩

/-- A clipped text is the longest start that fits. -/
theorem isLongestStart_clip (limit : Nat) (s : String) :
    IsLongestStart limit s (clip limit s) where
  starts := by
    rw [clip, String.toList_ofList]
    exact go_prefix limit s.toList
  fits := utf8ByteSize_clip_le limit s
  longest := by
    intro t ht hfits
    rw [clip, String.toList_ofList]
    exact prefix_go ht (by rwa [String.ofList_toList])

/-! ## From the limit back -/

/-- The last boundary between two characters at or before a place, looked for from the place
back. -/
def boundaryBack? (s : String) : (place : Nat) → Option Nat
  | 0 => if String.Pos.Raw.isValid s ⟨0⟩ then some 0 else none
  | place + 1 =>
    if String.Pos.Raw.isValid s ⟨place + 1⟩ then some (place + 1) else boundaryBack? s place

/-- The text before a place, which has to be a boundary. -/
def before? (s : String) (place : Nat) : Option String :=
  if String.Pos.Raw.isValid s ⟨place⟩ then Bytes.text? ((Bytes.ofText s).take place) else none

/-- The text before the last boundary that is not beyond the limit. -/
def clipBack? (limit : Nat) (s : String) : Option String :=
  (boundaryBack? s (min s.utf8ByteSize limit)).bind (before? s)

theorem isValid_iff {s : String} {place : Nat} :
    String.Pos.Raw.isValid s ⟨place⟩ = true ↔
      ∃ front rest, s = front ++ rest ∧ front.utf8ByteSize = place := by
  rw [String.Pos.Raw.isValid_eq_true_iff, String.Pos.Raw.isValid_iff_exists_append]
  constructor
  · rintro ⟨front, rest, hs, hplace⟩
    exact ⟨front, rest, hs, (congrArg String.Pos.Raw.byteIdx hplace).symm⟩
  · rintro ⟨front, rest, hs, rfl⟩
    exact ⟨front, rest, hs, rfl⟩

/-- The search ends at a boundary behind which, up to where it began, there is no other. -/
theorem boundaryBack?_eq {s : String} {found place : Nat} (hle : found ≤ place)
    (hfound : String.Pos.Raw.isValid s ⟨found⟩ = true)
    (hlast : ∀ n, n ≤ place → String.Pos.Raw.isValid s ⟨n⟩ = true → n ≤ found) :
    boundaryBack? s place = some found := by
  induction place with
  | zero =>
    obtain rfl := Nat.le_zero.mp hle
    rw [boundaryBack?, if_pos hfound]
  | succ place ih =>
    rw [boundaryBack?]
    by_cases hhere : String.Pos.Raw.isValid s ⟨place + 1⟩ = true
    · have hback := hlast (place + 1) (Nat.le_refl _) hhere
      rw [if_pos hhere, Nat.le_antisymm hle hback]
    · have hne : found ≠ place + 1 := fun h => hhere (h ▸ hfound)
      rw [if_neg hhere]
      exact ih (by omega) fun n hn => hlast n (by omega)

/-- Looked for from the limit back, the place is the same: the search does not run past the front
of the text, and it does not end inside a character. -/
theorem clipBack?_eq (limit : Nat) (s : String) : clipBack? limit s = some (clip limit s) := by
  have hclip := isLongestStart_clip limit s
  generalize clip limit s = start at hclip
  obtain ⟨rest, hrest⟩ := hclip.starts
  obtain rfl : s = start ++ String.ofList rest := by
    rw [← String.toList_inj, ← hrest]
    simp
  have hboundary :
      String.Pos.Raw.isValid (start ++ String.ofList rest) ⟨start.utf8ByteSize⟩ = true :=
    isValid_iff.mpr ⟨start, String.ofList rest, rfl, rfl⟩
  have hfits := hclip.fits
  have hfound : boundaryBack? (start ++ String.ofList rest)
      (min (start ++ String.ofList rest).utf8ByteSize limit) = some start.utf8ByteSize := by
    refine boundaryBack?_eq ?_ hboundary fun n hn hvalid => ?_
    · rw [String.utf8ByteSize_append]
      omega
    · obtain ⟨front, more, heq, rfl⟩ := isValid_iff.mp hvalid
      have hfront : front.toList <+: (start ++ String.ofList rest).toList := by
        rw [heq, String.toList_append]
        exact List.prefix_append _ _
      obtain ⟨last, hlast⟩ := hclip.longest front hfront (by omega)
      have hstart : start = front ++ String.ofList last := by
        rw [← String.toList_inj, ← hlast]
        simp
      rw [hstart, String.utf8ByteSize_append]
      omega
  rw [clipBack?, hfound, Option.bind_some, before?, if_pos hboundary, Bytes.ofText_append,
    List.take_left' (Bytes.length_ofText start), Bytes.text?_ofText]

end Text
end WebSocket
