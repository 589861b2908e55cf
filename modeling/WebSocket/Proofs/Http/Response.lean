import WebSocket.Http.Response
import WebSocket.Proofs.Http.Fields
import WebSocket.Proofs.Http.Head
import WebSocket.Proofs.Text.Lines

/-
Reading a response that is written line by line.  A head that is made of lines ends with the blank
line behind them and with no earlier one (`headSize?_intercalate`), so that the lines are read back,
and what stands behind them is left for the body (`Response.readHead_lines`).
-/
namespace WebSocket
namespace Bytes

theorem ofText_intercalate (separator : String) (ps : List String) :
    ofText (separator.intercalate ps) = (ofText separator).intercalate (ps.map ofText) := by
  induction ps with
  | nil => rfl
  | cons p rest ih =>
    cases rest with
    | nil => simp
    | cons q rest =>
      rw [String.intercalate_cons_of_ne_nil (List.cons_ne_nil _ _), ofText_append, ofText_append,
        ih]
      simp only [List.map_cons, List.intercalate_cons_cons]

/-- The bytes of a character: its number in ASCII, and else none that stands for a character of
ASCII. -/
theorem ofText_singleton_cases (c : Char) :
    (c.toNat < 128 ∧ ofText (String.singleton c) = [UInt8.ofNat c.toNat]) ∨
      (ofText (String.singleton c) ≠ [] ∧
        ∀ b ∈ ofText (String.singleton c), 128 ≤ b.toNat) := by
  have hbytes : ofText (String.singleton c) = String.utf8EncodeChar c := by
    simp [ofText, String.toUTF8_eq_toByteArray, List.utf8Encode_singleton]
  rw [hbytes]
  rcases Nat.lt_or_ge c.toNat 128 with hlt | hge
  · refine .inl ⟨hlt, ?_⟩
    have hsmall : c.val.toNat ≤ 127 := Nat.le_of_lt_succ hlt
    rw [String.utf8EncodeChar, if_pos hsmall]
    rfl
  · refine .inr ⟨String.utf8EncodeChar_ne_nil, fun b hb => ?_⟩
    have hbig : ¬ c.val.toNat ≤ 127 := Nat.not_le_of_lt hge
    simp only [String.utf8EncodeChar, if_neg hbig] at hb
    split at hb
    · simp only [List.mem_cons, List.not_mem_nil, or_false] at hb
      rcases hb with rfl | rfl <;> rw [UInt8.toNat_ofNat'] <;> omega
    · split at hb
      · simp only [List.mem_cons, List.not_mem_nil, or_false] at hb
        rcases hb with rfl | rfl | rfl <;> rw [UInt8.toNat_ofNat'] <;> omega
      · simp only [List.mem_cons, List.not_mem_nil, or_false] at hb
        rcases hb with rfl | rfl | rfl | rfl <;> rw [UInt8.toNat_ofNat'] <;> omega

theorem ofText_cons (c : Char) (cs : List Char) :
    ofText (String.ofList (c :: cs)) = ofText (String.singleton c) ++ ofText (String.ofList cs) := by
  rw [String.ofList_cons, ofText_append]

/-- A byte of ASCII at the front of a text is the first character of the text. -/
theorem head_of_ofText {x : UInt8} {cs : List Char} (hx : x.toNat < 128)
    (h : [x] <+: ofText (String.ofList cs)) : ∃ c rest, cs = c :: rest ∧ c.toNat = x.toNat := by
  cases cs with
  | nil => simp [ofText] at h
  | cons c rest =>
    refine ⟨c, rest, rfl, ?_⟩
    rw [ofText_cons] at h
    rcases ofText_singleton_cases c with ⟨hc, heq⟩ | ⟨hne, hall⟩
    · rw [heq, List.singleton_append, List.cons_prefix_cons] at h
      rw [h.1, UInt8.toNat_ofNat', Nat.mod_eq_of_lt (by omega)]
    · obtain ⟨b, more, hb⟩ := List.exists_cons_of_ne_nil hne
      rw [hb, List.cons_append, List.cons_prefix_cons] at h
      have hbig := hall b (hb ▸ List.mem_cons_self)
      rw [← h.1] at hbig
      omega

/-- The bytes of a text hold the end of a line only where the text does. -/
theorem infix_of_infix_ofText {cs : List Char} (h : Http.lineEnd <:+: ofText (String.ofList cs)) :
    ['\r', '\n'] <:+: cs := by
  induction cs with
  | nil => simp [ofText, Http.lineEnd] at h
  | cons c cs ih =>
    rw [List.infix_cons_iff]
    rw [ofText_cons] at h
    rcases ofText_singleton_cases c with ⟨hc, heq⟩ | ⟨-, hall⟩
    · rw [heq, List.singleton_append, List.infix_cons_iff] at h
      rcases h with hpre | hin
      · obtain ⟨hreturn, hrest⟩ := List.cons_prefix_cons.mp hpre
        obtain ⟨d, rest, rfl, hd⟩ := head_of_ofText (by decide) hrest
        have hnumber : c.toNat = 13 := by
          have htoNat := congrArg UInt8.toNat hreturn
          rw [UInt8.toNat_ofNat', Nat.mod_eq_of_lt (by omega)] at htoNat
          exact htoNat.symm
        obtain rfl : c = '\r' := Char.toNat_inj.mp hnumber
        obtain rfl : d = '\n' := Char.toNat_inj.mp hd
        exact .inl (by simp)
      · exact .inr (ih hin)
    · -- no byte of the character is one of the two
      generalize ofText (String.singleton c) = bytes at h hall
      refine .inr (ih ?_)
      induction bytes with
      | nil => exact h
      | cons b bytes ih =>
        rw [List.cons_append, List.infix_cons_iff] at h
        rcases h with hpre | hin
        · have hbig := hall b List.mem_cons_self
          rw [← (List.cons_prefix_cons.mp hpre).1] at hbig
          exact absurd hbig (by decide)
        · exact ih hin fun x hx => hall x (List.mem_cons_of_mem b hx)

/-- In the bytes of a text no line ends where none does in the text. -/
theorem not_lineEnd_infix {s : String} (h : ¬ "\r\n".toList <:+: s.toList) :
    ¬ Http.lineEnd <:+: ofText s := by
  intro hin
  rw [← String.ofList_toList (s := s)] at hin
  exact h (infix_of_infix_ofText hin)

end Bytes

namespace Http

theorem intercalate_append_blank {lines : List Bytes} (hne : lines ≠ []) :
    lineEnd.intercalate (lines ++ [[], []]) = lineEnd.intercalate lines ++ headEnd := by
  induction lines with
  | nil => exact absurd rfl hne
  | cons line rest ih =>
    cases rest with
    | nil => simp [headEnd, List.intercalate_cons_cons]
    | cons next rest =>
      have hrest := ih (List.cons_ne_nil _ _)
      simp only [List.cons_append, List.intercalate_cons_cons, List.append_assoc] at hrest ⊢
      rw [hrest]

/-- The first blank line is the first of the two that stand at the end. -/
theorem eq_of_append_blank {before rest lines : List Bytes}
    (h : before ++ ([] :: rest) = lines ++ [[], []]) (hlines : ∀ line ∈ lines, line ≠ [])
    (hrest : rest ≠ []) : rest = [[]] := by
  rcases List.append_eq_append_iff.mp h with ⟨more, rfl, hlast⟩ | ⟨more, -, hlast⟩
  · cases more with
    | nil => simpa using hlast
    | cons line more =>
      have hline : line = [] := (List.cons.inj hlast).1.symm
      exact absurd hline (hlines line (by simp))
  · cases more with
    | nil => simpa using hlast.symm
    | cons line more =>
      have hlength := congrArg List.length hlast
      have hpositive := List.length_pos_iff.mpr hrest
      simp at hlength
      omega

/-- A head of lines ends behind them. -/
theorem headSize?_intercalate {lines : List Bytes} (hne : lines ≠ [])
    (h : ∀ line ∈ lines, line ≠ [] ∧ ¬ lineEnd <:+: line) :
    headSize? (lineEnd.intercalate (lines ++ [[], []])) =
      some (lineEnd.intercalate (lines ++ [[], []])).length := by
  have hend : lineEnd ≠ [] := List.cons_ne_nil _ _
  have hunbordered : Sequence.Unbordered lineEnd := unbordered_lineEndBytes
  generalize hd : lineEnd.intercalate (lines ++ [[], []]) = d
  have hlines : Sequence.split lineEnd d = lines ++ [[], []] := by
    refine (Sequence.split_eq_iff hunbordered hend).mpr ⟨by simp, hd, fun line hline => ?_⟩
    rcases List.mem_append.mp hline with hline | hblank
    · exact (h line hline).2
    · have hnil : line = [] := by simpa using hblank
      subst hnil
      decide
  -- two empty pieces stand next to each other, so there is a blank line
  have hblank : headEnd <:+: d := by
    rw [← hd, intercalate_append_blank hne]
    exact (List.suffix_append _ headEnd).isInfix
  cases hn : headSize? d with
  | none => exact absurd hblank (headSize?_eq_none_iff.mp hn)
  | some n =>
    obtain ⟨front, hfront⟩ := exists_take_eq hn
    have hd : d = front ++ (lineEnd ++ ([] ++ (lineEnd ++ d.drop n))) := by
      conv_lhs => rw [← List.take_append_drop n d, hfront, headEnd]
      simp
    rw [hd, hunbordered.split_append_split hend, hunbordered.split_append_split hend] at hlines
    have hrest : Sequence.split lineEnd (d.drop n) = [[]] :=
      eq_of_append_blank hlines (fun line hline => (h line hline).1)
        (Sequence.split_ne_nil hend (d.drop n))
    have hnil : d.drop n = [] := by
      rw [← Sequence.intercalate_split hend (d.drop n), hrest]
      rfl
    rw [Nat.le_antisymm (headSize?_le hn) (List.drop_eq_nil_iff.mp hnil)]

/-- The head that lines make is read as these lines, with what stands behind it left. -/
theorem Response.readHead_lines {line : String} {rest : List String}
    (h : ∀ l ∈ line :: rest, l ≠ "" ∧ ¬ "\r\n".toList <:+: l.toList) (t : Bytes) :
    Response.readHead (Bytes.ofText ("\r\n".intercalate (line :: rest ++ ["", ""])) ++ t) =
      .ok (line, rest ++ ["", ""], t) := by
  have hbytes : Bytes.ofText ("\r\n".intercalate (line :: rest ++ ["", ""])) =
      lineEnd.intercalate ((line :: rest).map Bytes.ofText ++ [[], []]) := by
    rw [Bytes.ofText_intercalate, List.map_append]
    rfl
  have hmade : ∀ bytes ∈ (line :: rest).map Bytes.ofText, bytes ≠ [] ∧ ¬ lineEnd <:+: bytes := by
    intro bytes hmem
    obtain ⟨l, hl, rfl⟩ := List.mem_map.mp hmem
    exact ⟨fun hnil => (h l hl).1 (Bytes.ofText_inj hnil), Bytes.not_lineEnd_infix (h l hl).2⟩
  have hsome : (line :: rest).map Bytes.ofText ≠ [] := List.cons_ne_nil _ _
  have hsize := headSize?_intercalate hsome hmade
  have hlines : Text.lines ("\r\n".intercalate (line :: rest ++ ["", ""])) =
      line :: rest ++ ["", ""] := by
    refine (Text.pieces_eq_iff unbordered_lineEnd (List.cons_ne_nil _ _)).mpr
      ⟨by simp, rfl, fun l hl => ?_⟩
    rcases List.mem_append.mp hl with hl | hblank
    · exact (h l hl).2
    · have hempty : l = "" := by simpa using hblank
      subst hempty
      decide
  rw [← hbytes] at hsize
  generalize "\r\n".intercalate (line :: rest ++ ["", ""]) = text at hsize hlines
  simp only [readHead, headSize?_append hsize t, List.take_left' rfl, List.drop_left' rfl,
    Bytes.text?_ofText, hlines, List.cons_append, List.headD_cons, List.tail_cons]

/-- A response is read part by part. -/
theorem Response.read_eq_ok {d rest body : Bytes} {line reason : String} {lines : List String}
    {status : Nat} {headers : Headers} {framing : Framing}
    (hhead : readHead d = .ok (line, lines, rest))
    (hstatus : readStatusLine line = .ok (status, reason))
    (hheaders : readHeaders lines = .ok headers)
    (hframing : Framing.ofHeaders headers = .ok framing)
    (hbody : framing.readBody rest = .ok body) :
    read d = .ok { status, reason, headers, body } := by
  simp only [read, hhead, hstatus, hheaders, hframing, hbody, bind, Except.bind, pure, Except.pure]

end Http
end WebSocket
