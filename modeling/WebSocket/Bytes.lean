/-
Byte strings, and the two readings the protocol gives them: a number written with its most
significant byte first, and text in UTF-8.  Both readings undo the writings beside them:
`toNat_ofNat` for numbers, `text?_ofText` and `ofText_of_text?` for text.
-/
namespace WebSocket

/-- A byte string. -/
abbrev Bytes := List UInt8

namespace Bytes

/-! ## Numbers -/

/-- How much a digit counts that `width` bytes follow. -/
def place : (width : Nat) → Nat
  | 0 => 1
  | width + 1 => place width * 256

theorem place_pos (width : Nat) : 0 < place width := by
  induction width with
  | zero => exact Nat.one_pos
  | succ width ih => exact Nat.mul_pos ih (by decide)

/-- The `width` bytes of `n`, most significant first.  Higher bytes are dropped. -/
def ofNat : (width : Nat) → Nat → Bytes
  | 0, _ => []
  | width + 1, n => UInt8.ofNat (n / place width % 256) :: ofNat width n

/-- The number that the bytes write, most significant first. -/
def toNat (b : Bytes) : Nat :=
  b.foldl (fun n x => n * 256 + x.toNat) 0

@[simp] theorem length_ofNat (width n : Nat) : (ofNat width n).length = width := by
  induction width with
  | zero => rfl
  | succ width ih => simp [ofNat, ih]

/-- Reading from `acc` on prepends the digits of `acc`. -/
theorem foldl_toNat (b : Bytes) (acc : Nat) :
    b.foldl (fun n x => n * 256 + x.toNat) acc = acc * place b.length + toNat b := by
  induction b generalizing acc with
  | nil => simp [toNat, place]
  | cons x b ih =>
    have h := ih x.toNat
    simp only [toNat, List.foldl_cons, Nat.zero_mul, Nat.zero_add, List.length_cons] at *
    rw [ih, h, Nat.add_mul, place, Nat.mul_assoc, Nat.mul_comm 256, Nat.add_assoc]

theorem toNat_cons (x : UInt8) (b : Bytes) :
    toNat (x :: b) = x.toNat * place b.length + toNat b := by
  have h := foldl_toNat b x.toNat
  simpa [toNat] using h

/-- A number read back is the number, less what did not fit. -/
theorem toNat_ofNat (width n : Nat) : toNat (ofNat width n) = n % place width := by
  induction width with
  | zero => simp [ofNat, toNat, place, Nat.mod_one]
  | succ width ih =>
    rw [ofNat, toNat_cons, ih, length_ofNat, UInt8.toNat_ofNat',
      Nat.mod_eq_of_lt (Nat.mod_lt _ (by decide)), place, Nat.mod_mul]
    rw [Nat.mul_comm, Nat.add_comm]

theorem toNat_lt (b : Bytes) : toNat b < place b.length := by
  induction b with
  | nil => exact Nat.one_pos
  | cons x b ih =>
    rw [toNat_cons, List.length_cons, place]
    have hx : x.toNat < 256 := x.toNat_lt
    have : x.toNat * place b.length ≤ 255 * place b.length :=
      Nat.mul_le_mul_right _ (by omega)
    omega

/-- Digits beyond the width do not count. -/
theorem ofNat_mul_add (width k n : Nat) : ofNat width (k * place width + n) = ofNat width n := by
  induction width generalizing k with
  | zero => rfl
  | succ width ih =>
    have hk : k * place (width + 1) + n = k * 256 * place width + n := by
      rw [place, Nat.mul_assoc, Nat.mul_comm 256]
    have hdiv : (k * 256 * place width + n) / place width = k * 256 + n / place width := by
      rw [Nat.add_comm, Nat.add_mul_div_right _ _ (place_pos width), Nat.add_comm]
    rw [ofNat, ofNat, hk, ih (k * 256), hdiv, Nat.mul_add_mod_self_right]

/-- The bytes of a number are those that write it. -/
theorem ofNat_toNat (b : Bytes) : ofNat b.length (toNat b) = b := by
  induction b with
  | nil => rfl
  | cons x b ih =>
    have hdiv : (x.toNat * place b.length + toNat b) / place b.length = x.toNat := by
      rw [Nat.mul_comm, Nat.mul_add_div (place_pos _),
        Nat.div_eq_of_lt (toNat_lt b), Nat.add_zero]
    rw [List.length_cons, ofNat, toNat_cons, ofNat_mul_add, ih, hdiv,
      Nat.mod_eq_of_lt x.toNat_lt, UInt8.ofNat_toNat]

/-! ## Buffers -/

/-- A byte string with `part` written over it from a position on. -/
def overwrite (position : Nat) (part b : Bytes) : Bytes :=
  b.take position ++ part ++ b.drop (position + part.length)

theorem overwrite_append {position : Nat} {front : Bytes} (h : front.length = position)
    (part rest : Bytes) :
    overwrite position part (front ++ rest) = front ++ part ++ rest.drop part.length := by
  rw [overwrite, List.take_left' h, ← List.drop_drop, List.drop_left' h]

/-! ## Text -/

/-- The UTF-8 bytes of a text. -/
def ofText (s : String) : Bytes :=
  s.toUTF8.data.toList

/-- The text that the bytes encode in UTF-8, if they encode one. -/
def text? (b : Bytes) : Option String :=
  String.fromUTF8? ⟨b.toArray⟩

@[simp] theorem text?_ofText (s : String) : text? (ofText s) = some s := by
  have h : (⟨s.toByteArray.data.toList.toArray⟩ : ByteArray) = s.toByteArray := by simp
  unfold text? ofText
  rw [String.toUTF8_eq_toByteArray, h, String.fromUTF8?, dif_pos s.isValidUTF8]
  rfl

theorem ofText_of_text? {b : Bytes} {s : String} (h : text? b = some s) : ofText s = b := by
  unfold text? String.fromUTF8? at h
  split at h
  · simp only [Option.some.injEq] at h
    subst h
    simp [ofText, String.fromUTF8]
  · simp at h

@[simp] theorem ofText_append (s t : String) : ofText (s ++ t) = ofText s ++ ofText t := by
  simp [ofText]

theorem length_ofText (s : String) : (ofText s).length = s.utf8ByteSize := by
  rw [ofText, Array.length_toList]
  rfl

end Bytes
end WebSocket
