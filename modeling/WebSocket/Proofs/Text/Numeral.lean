import WebSocket.Proofs.Text.Lines
import WebSocket.Text.Numeral

/-
Numerals.  What is read as a number holds digits and perhaps a plus sign
(`Text.not_mem_of_number?`).  The digits of a number are read as the number, in either letter case
and with any zeros before them (`Text.IsNumeral.number?_eq`).
-/
namespace WebSocket
namespace Text

theorem isSome_digit?_of_mem {base acc n : Nat} {cs : List Char}
    (h : digits? base acc cs = some n) {c : Char} (hc : c ∈ cs) : (digit? base c).isSome := by
  induction cs generalizing acc with
  | nil => cases hc
  | cons d rest ih =>
    rw [digits?] at h
    cases hd : digit? base d with
    | none => simp [hd] at h
    | some v =>
      simp only [hd] at h
      rcases List.mem_cons.mp hc with rfl | hc
      · rw [hd]
        rfl
      · exact ih h hc

/-- A numeral holds digits, and perhaps a plus sign. -/
theorem not_mem_of_number? {base bound n : Nat} {s : String} (h : number? base bound s = some n)
    {c : Char} (hdigit : digitValue? c = none) (hplus : c ≠ '+') : c ∉ s.toList := by
  intro hc
  have hunsigned : c ∈ unsigned s.toList := by
    unfold unsigned
    split
    · rename_i heq
      rw [heq] at hc
      exact (List.mem_cons.mp hc).resolve_left hplus
    · exact hc
  unfold number? at h
  split at h
  · cases h
  · rename_i d rest heq
    cases hn : digits? base 0 (d :: rest) with
    | none => simp [hn] at h
    | some v =>
      have hsome := isSome_digit?_of_mem hn (heq ▸ hunsigned)
      rw [digit?, hdigit] at hsome
      cases hsome

/-! ## The digits of a number -/

/-- Whether a text is a numeral of a number: its digits, in either letter case, and perhaps zeros
before them. -/
def IsNumeral (base n : Nat) (s : String) : Prop :=
  ∃ zeros, fold s = String.ofList (List.replicate zeros '0' ++ Nat.toDigits base n)

theorem digitValue?_toLower (c : Char) : digitValue? c.toLower = digitValue? c := by
  have hascii : ∀ n < 128, digitValue? (Char.ofNat n).toLower = digitValue? (Char.ofNat n) := by
    decide
  rcases Nat.lt_or_ge c.toNat 128 with hlt | hge
  · have hc := hascii c.toNat hlt
    rwa [Char.ofNat_toNat] at hc
  · have hcase : c.toLower = c := by
      refine dif_neg fun hrange => ?_
      have hle : c.toNat ≤ 'Z'.toNat := hrange.2
      exact absurd (Nat.le_trans hge hle) (by decide)
    rw [hcase]

theorem isBlank_of_isSome_digit? {base : Nat} {c : Char} (h : (digit? base c).isSome) :
    isBlank c = false := by
  have hascii : ∀ n < 128, (digitValue? (Char.ofNat n)).isSome →
      isBlank (Char.ofNat n) = false := by
    decide
  have hvalue : (digitValue? c).isSome := by
    unfold digit? at h
    cases hc : digitValue? c with
    | none => simp [hc] at h
    | some d => rfl
  have hlt : c.toNat < 128 := by
    refine Nat.lt_of_not_le fun hge => ?_
    -- the last digit of every class is of ASCII
    have hrange : ∀ last : Char, last.toNat < 128 → ¬ c ≤ last := fun last hlast hle =>
      absurd (Nat.le_trans hge (Char.le_def.mp hle)) (Nat.not_le_of_lt hlast)
    have hnine := hrange '9' (by decide)
    have hsmall := hrange 'z' (by decide)
    have hcapital := hrange 'Z' (by decide)
    simp [digitValue?, hnine, hsmall, hcapital] at hvalue
  have hc := hascii c.toNat hlt
  rw [Char.ofNat_toNat] at hc
  exact hc hvalue

theorem digits?_map_toLower (base acc : Nat) (cs : List Char) :
    digits? base acc (cs.map Char.toLower) = digits? base acc cs := by
  induction cs generalizing acc with
  | nil => rfl
  | cons c rest ih =>
    have hdigit : digit? base c.toLower = digit? base c := by
      rw [digit?, digitValue?_toLower, digit?]
    rw [List.map_cons, digits?, hdigit, digits?]
    cases digit? base c with
    | none => rfl
    | some d => exact ih _

theorem digits?_append (base acc : Nat) (front back : List Char) :
    digits? base acc (front ++ back) =
      (digits? base acc front).bind fun n => digits? base n back := by
  induction front generalizing acc with
  | nil => rfl
  | cons c rest ih =>
    rw [List.cons_append, digits?, digits?]
    cases digit? base c with
    | none => rfl
    | some d => exact ih _

theorem digit?_digitChar {base d : Nat} (hbase : base ≤ 16) (hd : d < base) :
    digit? base d.digitChar = some d := by
  have hvalue : ∀ d < 16, digitValue? d.digitChar = some d := by decide
  rw [digit?, hvalue d (Nat.lt_of_lt_of_le hd hbase)]
  exact if_pos hd

theorem digits?_toDigits {base : Nat} (hone : 1 < base) (hbase : base ≤ 16) (n : Nat) :
    digits? base 0 (Nat.toDigits base n) = some n := by
  induction n using Nat.strongRecOn with
  | ind n ih =>
    rw [Nat.toDigits_eq_if hone]
    split
    · rename_i hlt
      simp [digits?, digit?_digitChar hbase hlt]
    · rename_i hge
      have hless : n / base < n := Nat.div_lt_self (by omega) hone
      have hlast := digit?_digitChar hbase (Nat.mod_lt n (by omega : 0 < base))
      rw [digits?_append, ih _ hless, Option.bind_some, digits?, hlast]
      simp only [digits?]
      rw [Nat.div_add_mod']

theorem digits?_replicate {base : Nat} (hbase : 0 < base) (zeros : Nat) :
    digits? base 0 (List.replicate zeros '0') = some 0 := by
  have hzero : digit? base '0' = some 0 := if_pos hbase
  induction zeros with
  | zero => rfl
  | succ zeros ih =>
    rw [List.replicate_succ, digits?, hzero]
    simpa using ih

namespace IsNumeral

variable {base n : Nat} {s : String}

theorem digits?_eq (hone : 1 < base) (hbase : base ≤ 16) (h : IsNumeral base n s) :
    digits? base 0 s.toList = some n := by
  obtain ⟨zeros, hs⟩ := h
  have hlower : s.toList.map Char.toLower = List.replicate zeros '0' ++ Nat.toDigits base n := by
    have hlists := congrArg String.toList hs
    rwa [fold, String.toList_ofList, String.toList_ofList] at hlists
  rw [← digits?_map_toLower, hlower, digits?_append, digits?_replicate (by omega), Option.bind_some,
    digits?_toDigits hone hbase]

theorem not_mem (hone : 1 < base) (hbase : base ≤ 16) (h : IsNumeral base n s) {c : Char}
    (hdigit : digitValue? c = none) : c ∉ s.toList := by
  intro hc
  have hsome := isSome_digit?_of_mem (h.digits?_eq hone hbase) hc
  rw [digit?, hdigit] at hsome
  cases hsome

theorem isSolid (hone : 1 < base) (hbase : base ≤ 16) (h : IsNumeral base n s) : IsSolid s := by
  intro c hc
  refine ⟨?_, ?_, ?_⟩ <;> rintro rfl <;> exact h.not_mem hone hbase (by decide) hc

theorem isDense (hone : 1 < base) (hbase : base ≤ 16) (h : IsNumeral base n s) : IsDense s :=
  fun _ hc => isBlank_of_isSome_digit? (isSome_digit?_of_mem (h.digits?_eq hone hbase) hc)

/-- The numeral of a number is read as the number. -/
theorem number?_eq {bound : Nat} (hone : 1 < base) (hbase : base ≤ 16) (h : IsNumeral base n s)
    (hn : n < bound) : number? base bound s = some n := by
  have hdigits := h.digits?_eq hone hbase
  have hplus : ∀ rest, s.toList ≠ '+' :: rest := by
    intro rest hs
    rw [hs, digits?] at hdigits
    cases hdigits
  have hunsigned : unsigned s.toList = s.toList := by
    unfold unsigned
    split
    · rename_i rest hs
      exact absurd hs (hplus rest)
    · rfl
  obtain ⟨zeros, hs⟩ := h
  have hne : s.toList ≠ [] := by
    intro hnil
    have hlists := congrArg String.toList hs
    rw [fold, hnil, String.toList_ofList, String.toList_ofList] at hlists
    exact Nat.toDigits_ne_nil (List.append_eq_nil_iff.mp hlists.symm).2
  rw [number?, hunsigned]
  split
  · rename_i hnil
    exact absurd hnil hne
  · rename_i c rest hcons
    rw [← hcons, hdigits]
    exact if_pos hn

end IsNumeral
end Text
end WebSocket
