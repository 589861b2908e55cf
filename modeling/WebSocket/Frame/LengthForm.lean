import WebSocket.Frame.Decoder
import WebSocket.Frame.Encoder

/-
The forms in which the length of a payload can be written.  A length has up to three of them; the
written form of a frame takes the shortest one, but a frame can be put down in each of them
(`Frame.encodeIn`).
-/
namespace WebSocket

/-- Where the length of a payload is written: in the seven bits behind the mask bit, or in two or in
eight bytes behind them. -/
inductive LengthForm
  | seven
  | two
  | eight
deriving DecidableEq

namespace LengthForm

/-- How many bytes a form takes behind the second byte of the frame. -/
def width : LengthForm → Nat
  | .seven => 0
  | .two => 2
  | .eight => 8

/-- What the seven bits hold: the length, or which form it has. -/
def bits : LengthForm → Nat → Nat
  | .seven, n => n
  | .two, _ => 126
  | .eight, _ => 127

/-- The lengths that a form can write.  Of eight bytes the top bit stays clear. -/
def Holds : LengthForm → Nat → Prop
  | .seven, n => n ≤ 125
  | .two, n => n ≤ 0xFFFF
  | .eight, n => n < 0x8000000000000000

/-- A length in a form.  The first byte carries the mask bit as well. -/
def bytes (form : LengthForm) (maskBit : UInt8) (n : Nat) : Bytes :=
  (maskBit ||| UInt8.ofNat (form.bits n)) :: Bytes.ofNat form.width n

/-- The form that a written length has. -/
def ofLength (n : Nat) : LengthForm :=
  if n ≤ 125 then .seven else if n ≤ 0xFFFF then .two else .eight

/-- No form that can write the length takes fewer bytes. -/
def IsShortest (form : LengthForm) (n : Nat) : Prop :=
  ∀ other : LengthForm, other.Holds n → form.width ≤ other.width

theorem lengthBytes_eq (maskBit : UInt8) (n : Nat) :
    Frame.lengthBytes maskBit n = (ofLength n).bytes maskBit n := by
  unfold Frame.lengthBytes ofLength
  split
  · rfl
  · split <;> rfl

theorem holds_ofLength {n : Nat} (h : n < 0x8000000000000000) : (ofLength n).Holds n := by
  unfold ofLength
  split
  · assumption
  · split
    · assumption
    · exact h

theorem width_injective {form other : LengthForm} (h : form.width = other.width) :
    form = other := by
  cases form <;> cases other <;> first | rfl | cases h

/-- The form of a written length is the shortest. -/
theorem isShortest_ofLength (n : Nat) : (ofLength n).IsShortest n := by
  intro other hother
  unfold ofLength
  split
  · exact Nat.zero_le _
  · rename_i hseven
    split
    · cases other with
      | seven => exact absurd hother hseven
      | two => exact Nat.le_refl _
      | eight => decide
    · rename_i htwo
      cases other with
      | seven => exact absurd hother hseven
      | two => exact absurd hother htwo
      | eight => exact Nat.le_refl _

/-- The shortest of the forms that can write a length is the one that it is written in. -/
theorem isShortest_iff {form : LengthForm} {n : Nat} (h : form.Holds n)
    (hn : n < 0x8000000000000000) : form.IsShortest n ↔ form = ofLength n := by
  constructor
  · intro hform
    exact width_injective (Nat.le_antisymm (hform _ (holds_ofLength hn))
      (isShortest_ofLength n form h))
  · intro hform
    exact hform ▸ isShortest_ofLength n

theorem lt_of_holds {form : LengthForm} {n : Nat} (h : form.Holds n) : n < 0x8000000000000000 := by
  cases form with
  | seven => exact Nat.lt_of_le_of_lt h (by decide)
  | two => exact Nat.lt_of_le_of_lt h (by decide)
  | eight => exact h

@[simp] theorem length_bytes (form : LengthForm) (maskBit : UInt8) (n : Nat) :
    (form.bytes maskBit n).length = 1 + form.width := by
  rw [bytes, List.length_cons, Bytes.length_ofNat, Nat.add_comm]

end LengthForm

namespace Frame

/-- What stands before the payload of a frame, with the length in a given form. -/
def headIn (form : LengthForm) (key : Option MaskKey) (f : Frame) : Bytes :=
  f.firstByte :: form.bytes (flag key.isSome 0x80) f.payload.length ++
    (key.map MaskKey.bytes).getD []

/-- A payload as it travels: masked, if there is a key. -/
def underKey (key : Option MaskKey) (payload : Bytes) : Bytes :=
  match key with
  | some key => key.apply payload
  | none => payload

/-- The bytes of a frame with the length in a given form, masked if there is a key. -/
def encodeIn (form : LengthForm) (key : Option MaskKey) (f : Frame) : Bytes :=
  f.headIn form key ++ underKey key f.payload

@[simp] theorem length_underKey (key : Option MaskKey) (payload : Bytes) :
    (underKey key payload).length = payload.length := by
  cases key with
  | none => rfl
  | some key => exact key.length_apply payload

@[simp] theorem underKey_underKey (key : Option MaskKey) (payload : Bytes) :
    underKey key (underKey key payload) = payload := by
  cases key with
  | none => rfl
  | some key => exact key.apply_apply payload

theorem length_headIn (form : LengthForm) (key : Option MaskKey) (f : Frame) :
    (f.headIn form key).length =
      2 + form.width + ((key.map MaskKey.bytes).getD []).length := by
  rw [headIn, List.length_append, List.length_cons, LengthForm.length_bytes]
  omega

theorem length_encodeIn (form : LengthForm) (key : Option MaskKey) (f : Frame) :
    (f.encodeIn form key).length =
      2 + form.width + ((key.map MaskKey.bytes).getD []).length + f.payload.length := by
  rw [encodeIn, List.length_append, length_headIn, length_underKey]

theorem encode_eq_encodeIn (f : Frame) :
    f.encode = f.encodeIn (.ofLength f.payload.length) none := by
  simp [encode, encodeIn, headIn, underKey, flag, LengthForm.lengthBytes_eq]

theorem encodeMasked_eq_encodeIn (key : MaskKey) (f : Frame) :
    f.encodeMasked key = f.encodeIn (.ofLength f.payload.length) (some key) := by
  simp [encodeMasked, encodeIn, headIn, underKey, flag, LengthForm.lengthBytes_eq]

end Frame
end WebSocket
