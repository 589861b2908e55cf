import Mathlib.Data.List.Basic
import WebSocket.Base64

/-
Base64 reads the written form of a byte string and no other (`Base64.decode?_eq_some_iff`).
Characters stand for digits in base 64, so reading a run of them undoes writing a number with as
many digits; a group of four characters holds three bytes, and a shorter last group holds a number
whose low bits are zero.
-/
namespace WebSocket
namespace Base64

/-! ## Digits -/

/-- What one more digit in front stands for. -/
def place : (count : Nat) → Nat
  | 0 => 1
  | count + 1 => place count * 64

theorem place_pos (count : Nat) : 0 < place count := by
  induction count with
  | zero => exact Nat.one_pos
  | succ count ih => exact Nat.mul_pos ih (by decide)

/-- The characters that write the low digits of a number in base 64, most significant first. -/
def sextets : (count n : Nat) → List Char
  | 0, _ => []
  | count + 1, n => symbol (n / place count % 64) :: sextets count n

/-- The alphabet lies in ASCII. -/
theorem toNat_lt_of_value? {c : Char} {v : Nat} (h : value? c = some v) : c.toNat < 128 := by
  have hplus : c = '+' → c.toNat < 128 := fun hc => by subst hc; decide
  have hslash : c = '/' → c.toNat < 128 := fun hc => by subst hc; decide
  grind [value?]

theorem symbol_value? : ∀ n < 128, ∀ v ∈ value? (Char.ofNat n), v < 64 ∧ symbol v = Char.ofNat n := by
  decide

/-- Each character of the alphabet stands for one digit, and only for that. -/
theorem value?_eq_some_iff {c : Char} {v : Nat} : value? c = some v ↔ v < 64 ∧ symbol v = c := by
  constructor
  · intro h
    have hc : Char.ofNat c.toNat = c := Char.ofNat_toNat c
    have hv := symbol_value? c.toNat (toNat_lt_of_value? h) v (by rwa [hc])
    rwa [hc] at hv
  · rintro ⟨hv, rfl⟩
    exact value?_symbol v hv

theorem number?_eq_some_iff {acc n : Nat} {cs : List Char} :
    number? acc cs = some n ↔ n / place cs.length = acc ∧ sextets cs.length n = cs := by
  induction cs generalizing acc with
  | nil => simp [number?, sextets, place, eq_comm]
  | cons c rest ih =>
    rw [number?, List.length_cons, sextets, place, ← Nat.div_div_eq_div_mul]
    generalize hq : n / place rest.length = q
    constructor
    · intro h
      cases hv : value? c with
      | none => simp [hv] at h
      | some v =>
        simp only [hv] at h
        obtain ⟨hlt, hsymbol⟩ := value?_eq_some_iff.mp hv
        obtain ⟨hdiv, hrest⟩ := ih.mp h
        rw [hq] at hdiv
        have hhigh : q / 64 = acc := by omega
        have hlow : q % 64 = v := by omega
        rw [hlow, hsymbol, hrest]
        exact ⟨hhigh, rfl⟩
    · rintro ⟨hhigh, hcs⟩
      obtain ⟨hsymbol, hrest⟩ := List.cons.inj hcs
      have hv : value? c = some (q % 64) :=
        value?_eq_some_iff.mpr ⟨Nat.mod_lt _ (by decide), hsymbol⟩
      have hdiv : q = acc * 64 + q % 64 := by omega
      rw [hv]
      exact ih.mpr ⟨hq.trans hdiv, hrest⟩

/-- A number of as many digits as there are characters. -/
theorem number?_zero_iff {n : Nat} {cs : List Char} :
    number? 0 cs = some n ↔ n < place cs.length ∧ sextets cs.length n = cs := by
  rw [number?_eq_some_iff, Nat.div_eq_zero_iff]
  simp only [Nat.ne_of_gt (place_pos cs.length), false_or]

/-- A short group holds bytes whose number fills the digits but for their low bits. -/
theorem decodeLast_eq_some_iff {width unit count : Nat} {cs : List Char} {b : Bytes}
    (hcount : cs.length = count) (hfull : Bytes.place width * unit = place count) :
    decodeLast width unit cs = some b ↔
      b.length = width ∧ sextets count (b.toNat * unit) = cs := by
  subst hcount
  have hunit : 0 < unit := by
    refine Nat.pos_of_ne_zero fun h => ?_
    have hpos := place_pos cs.length
    rw [← hfull, h] at hpos
    exact absurd hpos (by simp)
  rw [decodeLast]
  constructor
  · intro h
    cases hn : number? 0 cs with
    | none => simp [hn] at h
    | some n =>
      simp only [hn] at h
      split at h
      · rename_i hmod
        cases h
        obtain ⟨hlt, hcs⟩ := number?_zero_iff.mp hn
        have hquot : n / unit < Bytes.place width := by
          rwa [Nat.div_lt_iff_lt_mul hunit, hfull]
        refine ⟨Bytes.length_ofNat _ _, ?_⟩
        rw [Bytes.toNat_ofNat, Nat.mod_eq_of_lt hquot,
          Nat.div_mul_cancel (Nat.dvd_of_mod_eq_zero hmod)]
        exact hcs
      · cases h
  · rintro ⟨rfl, hcs⟩
    have hlt : b.toNat * unit < place cs.length := by
      rw [← hfull]
      exact Nat.mul_lt_mul_of_pos_right (Bytes.toNat_lt b) hunit
    rw [number?_zero_iff.mpr ⟨hlt, hcs⟩]
    simp only
    rw [if_pos (Nat.mul_mod_left _ _), Nat.mul_div_cancel _ hunit, Bytes.ofNat_toNat]

theorem decodeLast_one_iff {c₁ c₂ : Char} {b : Bytes} :
    decodeLast 1 0x10 [c₁, c₂] = some b ↔
      b.length = 1 ∧ sextets 2 (b.toNat * 0x10) = [c₁, c₂] :=
  decodeLast_eq_some_iff rfl (by decide)

theorem decodeLast_two_iff {c₁ c₂ c₃ : Char} {b : Bytes} :
    decodeLast 2 0x4 [c₁, c₂, c₃] = some b ↔
      b.length = 2 ∧ sextets 3 (b.toNat * 0x4) = [c₁, c₂, c₃] :=
  decodeLast_eq_some_iff rfl (by decide)

/-- A full group is a short one with no bits to spare. -/
theorem decodeLast_three (cs : List Char) :
    decodeLast 3 1 cs = (number? 0 cs).map (Bytes.ofNat 3) := by
  unfold decodeLast
  cases number? 0 cs with
  | none => rfl
  | some n => simp [Nat.mod_one]

theorem map_number?_iff {c₁ c₂ c₃ c₄ : Char} {b : Bytes} :
    (number? 0 [c₁, c₂, c₃, c₄]).map (Bytes.ofNat 3) = some b ↔
      b.length = 3 ∧ sextets 4 b.toNat = [c₁, c₂, c₃, c₄] := by
  have hfull : Bytes.place 3 * 1 = place 4 := by decide
  have hcount : [c₁, c₂, c₃, c₄].length = 4 := rfl
  rw [← decodeLast_three, decodeLast_eq_some_iff hcount hfull, Nat.mul_one]

/-! ## The written form -/

theorem group_two (n : Nat) : group 2 n = sextets 2 (n / 0x1000) := by
  simp [group, sextets, place, Nat.div_div_eq_div_mul]

theorem group_three (n : Nat) : group 3 n = sextets 3 (n / 0x40) := by
  simp [group, sextets, place, Nat.div_div_eq_div_mul]

theorem group_four (n : Nat) : group 4 n = sextets 4 n := by
  simp [group, sextets, place]

theorem encode_one (x : UInt8) :
    encode [x] = sextets 2 (Bytes.toNat [x] * 0x10) ++ ['=', '='] := by
  have hnum : x.toNat * 0x10000 / 0x1000 = Bytes.toNat [x] * 0x10 := by
    simp [Bytes.toNat]
    omega
  rw [encode, group_two, hnum]

theorem encode_two (x y : UInt8) :
    encode [x, y] = sextets 3 (Bytes.toNat [x, y] * 0x4) ++ ['='] := by
  have hnum : (x.toNat * 0x10000 + y.toNat * 0x100) / 0x40 = Bytes.toNat [x, y] * 0x4 := by
    simp [Bytes.toNat]
    omega
  rw [encode, group_three, hnum]

theorem encode_three_append (x y z : UInt8) (rest : Bytes) :
    encode (x :: y :: z :: rest) = sextets 4 (Bytes.toNat [x, y, z]) ++ encode rest := by
  have hnum : x.toNat * 0x10000 + y.toNat * 0x100 + z.toNat = Bytes.toNat [x, y, z] := by
    simp [Bytes.toNat]
    omega
  rw [encode, group_four, hnum]

/-- No character of the alphabet is the one that pads. -/
theorem symbol_ne_pad : ∀ n < 64, symbol n ≠ '=' := by
  decide

/-- A full group is read apart from what follows it. -/
theorem decode?_cons_four {c₁ c₂ c₃ c₄ : Char} {rest : List Char} {b bytes : Bytes}
    (hpad : c₄ ≠ '=') (hlength : b.length = 3) (hgroup : sextets 4 b.toNat = [c₁, c₂, c₃, c₄])
    (hrest : decode? rest = some bytes) :
    decode? (c₁ :: c₂ :: c₃ :: c₄ :: rest) = some (b ++ bytes) := by
  obtain ⟨n, hn, rfl⟩ := Option.map_eq_some_iff.mp (map_number?_iff.mpr ⟨hlength, hgroup⟩)
  rw [decode?.eq_4 _ _ _ _ _ (fun _ h => absurd h hpad) (fun h => absurd h hpad), hn, hrest]

/-- What is read is the written form of the bytes that come out. -/
theorem encode_of_decode? {cs : List Char} {b : Bytes} (h : decode? cs = some b) :
    encode b = cs := by
  induction cs using decode?.induct generalizing b with
  | case1 =>
    cases h
    rfl
  | case2 c₁ c₂ =>
    obtain ⟨hlength, hcs⟩ := decodeLast_one_iff.mp h
    obtain ⟨x, rfl⟩ := List.length_eq_one_iff.mp hlength
    rw [encode_one, hcs]
    rfl
  | case3 c₁ c₂ c₃ hc₃ =>
    rw [decode?.eq_3 _ _ _ hc₃] at h
    obtain ⟨hlength, hcs⟩ := decodeLast_two_iff.mp h
    obtain ⟨x, y, rfl⟩ := List.length_eq_two.mp hlength
    rw [encode_two, hcs]
    rfl
  | case4 c₁ c₂ c₃ c₄ rest htwo hone n bytes hrest hn ih =>
    rw [decode?.eq_4 _ _ _ _ _ htwo hone, hn, hrest] at h
    obtain ⟨hlength, hcs⟩ := map_number?_iff.mp (congrArg (Option.map (Bytes.ofNat 3)) hn)
    obtain ⟨x, y, z, hxyz⟩ := List.length_eq_three.mp hlength
    obtain rfl := Option.some.inj h
    rw [hxyz] at hcs ⊢
    show encode (x :: y :: z :: bytes) = _
    rw [encode_three_append, ih hrest, hcs]
    rfl
  | case5 c₁ c₂ c₃ c₄ rest htwo hone hnone ih =>
    rw [decode?.eq_4 _ _ _ _ _ htwo hone] at h
    split at h
    · rename_i n bytes hn hrest
      exact absurd hrest (hnone n bytes hn)
    · cases h
  | case6 cs hnil htwo hone hfour =>
    rw [decode?.eq_5 cs hnil htwo hone hfour] at h
    cases h

/-- What is written is read back. -/
theorem decode?_encode (b : Bytes) : decode? (encode b) = some b := by
  induction b using encode.induct with
  | case1 => rfl
  | case2 x =>
    rw [encode_one]
    exact decodeLast_one_iff.mpr ⟨rfl, rfl⟩
  | case3 x y =>
    rw [encode_two]
    have hpad := symbol_ne_pad (Bytes.toNat [x, y] * 0x4 / place 0 % 64) (Nat.mod_lt _ (by decide))
    exact (decode?.eq_3 _ _ _ hpad).trans (decodeLast_two_iff.mpr ⟨rfl, rfl⟩)
  | case4 x y z rest ih =>
    have hpad := symbol_ne_pad (Bytes.toNat [x, y, z] / place 0 % 64) (Nat.mod_lt _ (by decide))
    rw [encode_three_append]
    exact decode?_cons_four hpad rfl rfl ih

theorem decode?_eq_some_iff {cs : List Char} {b : Bytes} : decode? cs = some b ↔ cs = encode b :=
  ⟨fun h => (encode_of_decode? h).symm, fun h => h ▸ decode?_encode b⟩

/-! ## Size -/

theorem utf8Size_symbol : ∀ n < 64, (symbol n).utf8Size = 1 := by
  decide

theorem utf8ByteSize_sextets (count n : Nat) :
    (String.ofList (sextets count n)).utf8ByteSize = count := by
  induction count with
  | zero => rfl
  | succ count ih =>
    have hsize := utf8Size_symbol (n / place count % 64) (Nat.mod_lt _ (by decide))
    rw [sextets, String.ofList_cons, String.utf8ByteSize_append, String.utf8ByteSize_singleton,
      hsize, ih, Nat.add_comm]

/-- Every group of three bytes, the last one too, takes four characters of one byte. -/
theorem utf8ByteSize_encode (b : Bytes) :
    (String.ofList (encode b)).utf8ByteSize = (b.length + 2) / 3 * 4 := by
  induction b using encode.induct with
  | case1 => rfl
  | case2 x =>
    have hpad : (String.ofList ['=', '=']).utf8ByteSize = 2 := by decide
    rw [encode_one, String.ofList_append, String.utf8ByteSize_append, utf8ByteSize_sextets, hpad]
    simp
  | case3 x y =>
    have hpad : (String.ofList ['=']).utf8ByteSize = 1 := by decide
    rw [encode_two, String.ofList_append, String.utf8ByteSize_append, utf8ByteSize_sextets, hpad]
    simp
  | case4 x y z rest ih =>
    rw [encode_three_append, String.ofList_append, String.utf8ByteSize_append, utf8ByteSize_sextets,
      ih]
    simp only [List.length_cons]
    omega

end Base64
end WebSocket
