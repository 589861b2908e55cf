import WebSocket.Http.Head
import WebSocket.Proofs.Text.Pieces

/-
The lines of a head that is text.  A head ends with the first blank line of what it is the front
of, so that its lines are not empty but for the two that the blank line leaves, and the first one
(`exists_lines_of_headEndsAt`).
-/
namespace WebSocket
namespace Bytes

/-- Texts with the same bytes are the same. -/
theorem ofText_inj {s t : String} (h : ofText s = ofText t) : s = t := by
  have htext := text?_ofText s
  rw [h, text?_ofText] at htext
  exact (Option.some.inj htext).symm

theorem getElem?_ofText {s : String} {i : Nat} (h : i < s.toByteArray.size) :
    (ofText s)[i]? = some s.toByteArray[i] := by
  rw [ofText, String.toUTF8_eq_toByteArray, Array.getElem?_toList, Array.getElem?_eq_getElem h]
  rfl

/-- Text at the end of the bytes of a text is the end of that text: the first byte of a character
is not one that continues another. -/
theorem exists_of_ofText_eq_append {s t : String} {b : Bytes} (h : ofText s = b ++ ofText t) :
    ∃ front, s = front ++ t ∧ ofText front = b := by
  by_cases ht : t = ""
  · subst ht
    have hb : ofText s = b := by rw [h]; exact List.append_nil b
    exact ⟨s, (String.append_empty).symm, hb⟩
  · have hne : t.utf8ByteSize ≠ 0 := fun hsize => ht (String.utf8ByteSize_eq_zero_iff.mp hsize)
    have hsize : s.utf8ByteSize = b.length + t.utf8ByteSize := by
      rw [← length_ofText, h, List.length_append, length_ofText]
    have hs : b.length < s.toByteArray.size := by
      rw [String.size_toByteArray]
      omega
    have ht : 0 < t.toByteArray.size := by
      rw [String.size_toByteArray]
      omega
    have hbyte : s.toByteArray[b.length] = t.toByteArray[0] := by
      have hget : (ofText s)[b.length]? = (ofText t)[0]? := by
        rw [h, List.getElem?_append_right (Nat.le_refl _), Nat.sub_self]
      rw [getElem?_ofText hs, getElem?_ofText ht] at hget
      exact Option.some.inj hget
    have hvalid : (⟨b.length⟩ : String.Pos.Raw).IsValid s := by
      rw [String.Pos.Raw.isValid_iff_isUTF8FirstByte]
      refine .inr ⟨?_, ?_⟩
      · show b.length < s.utf8ByteSize
        omega
      · rw [String.getUTF8Byte_eq_getElem, hbyte]
        exact String.isUTF8FirstByte_getUTF8Byte_zero
    obtain ⟨front, rest, rfl, hpos⟩ := String.Pos.Raw.isValid_iff_exists_append.mp hvalid
    have hlength : (ofText front).length = b.length := by
      rw [length_ofText]
      exact (congrArg String.Pos.Raw.byteIdx hpos).symm
    rw [ofText_append] at h
    obtain ⟨hfront, hrest⟩ := List.append_inj h hlength
    exact ⟨front, by rw [ofText_inj hrest], hfront⟩

end Bytes

namespace Http

theorem ofText_blank : Bytes.ofText ("\r\n" ++ "\r\n") = headEnd := by
  decide

theorem HeadEndsAt.le_length {d : Bytes} {n : Nat} (h : HeadEndsAt d n) : n ≤ d.length :=
  headSize?_le (headSize?_eq_some_iff.mpr h)

/-- A blank line in a head is the end of it. -/
theorem HeadEndsAt.eq_nil {d front rest : Bytes} {n : Nat} (h : HeadEndsAt d n)
    (hd : d.take n = front ++ headEnd ++ rest) : rest = [] := by
  have hle := h.le_length
  obtain ⟨i, rfl, -, hfirst⟩ := h
  have hlength := congrArg List.length hd
  simp only [List.length_take, List.length_append] at hlength
  have hpre : headEnd <+: d.drop front.length := by
    refine List.IsPrefix.trans ?_ (List.IsPrefix.drop (List.take_prefix (i + headEnd.length) d) _)
    rw [hd, List.append_assoc, List.drop_left' rfl]
    exact List.prefix_append _ _
  have hi : i ≤ front.length := Nat.le_of_not_lt fun hlt => hfirst front.length hlt hpre
  refine List.eq_nil_of_length_eq_zero ?_
  omega

theorem unbordered_lineEndBytes : Sequence.Unbordered lineEnd := by
  unfold Sequence.Unbordered
  decide

theorem unbordered_lineEnd : Sequence.Unbordered "\r\n".toList := by
  unfold Sequence.Unbordered
  decide

/-- The lines of a head, of which none is empty but the first and the two that end it. -/
theorem exists_lines_of_headEndsAt {d : Bytes} {n : Nat} {s : String} (h : HeadEndsAt d n)
    (hs : Bytes.ofText s = d.take n) :
    ∃ first rest, Text.lines s = first :: rest ++ ["", ""] ∧ ∀ line ∈ rest, line ≠ "" := by
  have hne : "\r\n".toList ≠ [] := List.cons_ne_nil _ _
  obtain ⟨t, rfl⟩ : ∃ t, s = t ++ ("\r\n" ++ "\r\n") := by
    obtain ⟨front, hfront⟩ := exists_take_eq (headSize?_eq_some_iff.mpr h)
    rw [hfront, ← ofText_blank] at hs
    obtain ⟨t, ht, -⟩ := Bytes.exists_of_ofText_eq_append hs
    exact ⟨t, ht⟩
  have hlines : Text.lines (t ++ ("\r\n" ++ "\r\n")) = Text.lines t ++ ["", ""] := by
    have hone := Text.pieces_append unbordered_lineEnd hne t ""
    have htwo := Text.pieces_append unbordered_lineEnd hne (t ++ "\r\n") ""
    rw [String.append_empty] at hone htwo
    rw [← String.append_assoc, Text.lines, htwo, hone, List.append_assoc]
    rfl
  obtain ⟨hnil, hwhole, -⟩ := (Text.pieces_eq_iff unbordered_lineEnd hne).mp hlines
  obtain ⟨first, rest, hfirst⟩ := List.exists_cons_of_ne_nil <|
    ((Text.pieces_eq_iff unbordered_lineEnd hne).mp (rfl : Text.lines t = _)).1
  rw [hfirst] at hlines hwhole
  refine ⟨first, rest, hlines, fun line hline hempty => ?_⟩
  subst hempty
  -- an empty line is a blank line earlier than the one that ends the head
  obtain ⟨before, after, rfl⟩ := List.append_of_mem hline
  have hfront : first :: (before ++ "" :: after) ++ ["", ""] =
      (first :: before) ++ ("" :: (after ++ [""] ++ [""])) := by simp
  have hsplit : "\r\n".intercalate (first :: (before ++ "" :: after) ++ ["", ""]) =
      "\r\n".intercalate (first :: before) ++ ("\r\n" ++ "\r\n") ++
        ("\r\n".intercalate (after ++ [""]) ++ "\r\n") := by
    have hafter : after ++ [""] ++ [""] ≠ [] := by simp
    rw [hfront, String.intercalate_append_of_ne_nil (List.cons_ne_nil _ _) (List.cons_ne_nil _ _),
      String.intercalate_cons_of_ne_nil hafter,
      String.intercalate_append_of_ne_nil (by simp) (List.cons_ne_nil _ _),
      String.intercalate_singleton, String.append_empty, String.empty_append]
    simp only [String.append_assoc]
  rw [← hwhole, hsplit, Bytes.ofText_append, Bytes.ofText_append, ofText_blank] at hs
  have hrest := congrArg List.length (h.eq_nil hs.symm)
  rw [Bytes.length_ofText, String.utf8ByteSize_append] at hrest
  exact absurd hrest (Nat.ne_of_gt (Nat.lt_of_lt_of_le (by decide) (Nat.le_add_left _ _)))

end Http
end WebSocket
