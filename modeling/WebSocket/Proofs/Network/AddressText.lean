import WebSocket.Address
import WebSocket.Proofs.Text.Numeral

/-
The text of an address.  It is made of digits with points or colons between them, so it holds no
blank (`Address.isDense_text`) and cannot be taken for a word (`Address.exists_mark`).
-/
namespace WebSocket

theorem Text.isDense_hex (n : Nat) : IsDense (hex n) := by
  intro c hc
  have hdigits : c ∈ Nat.toDigits 16 n := by simpa [hex] using hc
  exact isBlank_of_isSome_digit?
    (isSome_digit?_of_mem (digits?_toDigits (by decide) (by decide) n) hdigits)

namespace Address4

theorem isDense_text (a : Address4) : Text.IsDense a.text :=
  Text.isDense_intercalate (by decide)
    (List.forall_mem_map.mpr fun part _ => Text.isDense_toString part.toNat)

theorem mem_text (a : Address4) : '.' ∈ a.text.toList := by
  simp [text, String.intercalate_cons_cons]

end Address4

namespace Address6

theorem isDense_joinGroups (groups : List Nat) : Text.IsDense (joinGroups groups) :=
  Text.isDense_intercalate (by decide) (List.forall_mem_map.mpr fun n _ => Text.isDense_hex n)

theorem isDense_text (a : Address6) : Text.IsDense a.text := by
  have hjoined := isDense_joinGroups
  unfold text
  split
  · rename_i inner _
    have hfront : Text.IsDense "::ffff:" := by decide
    exact hfront.append inner.isDense_text
  · unfold groupText
    generalize longestZeros a.toList = zeros
    obtain ⟨start, count⟩ := zeros
    have hcolons : Text.IsDense "::" := by decide
    simp only
    split
    · exact hjoined _
    · exact ((hjoined _).append hcolons).append (hjoined _)

/-- Between two groups stands a colon. -/
theorem mem_joinGroups {groups : List Nat} (h : 1 < groups.length) :
    ':' ∈ (joinGroups groups).toList := by
  match groups, h with
  | first :: second :: rest, _ => simp [joinGroups, String.intercalate_cons_cons]

theorem mem_text (a : Address6) : ':' ∈ a.text.toList := by
  unfold text
  split
  · simp
  · unfold groupText
    have hlength : 1 < a.toList.length := by simp [toList]
    generalize longestZeros a.toList = zeros
    obtain ⟨start, count⟩ := zeros
    simp only
    split
    · exact mem_joinGroups hlength
    · simp

end Address6

namespace Address

theorem isDense_text (a : Address) : Text.IsDense a.text := by
  cases a with
  | v4 a => exact a.isDense_text
  | v6 a => exact a.isDense_text

/-- A mark stands in the text, which no letter case changes. -/
theorem exists_mark (a : Address) : ∃ c ∈ ['.', ':'], c ∈ (Text.fold a.text).toList := by
  have hfold : ∀ {c : Char} {s : String}, c.toLower = c → c ∈ s.toList →
      c ∈ (Text.fold s).toList := fun hc hs => by
    rw [Text.fold, String.toList_ofList]
    exact List.mem_map.mpr ⟨_, hs, hc⟩
  cases a with
  | v4 a => exact ⟨'.', by decide, hfold rfl a.mem_text⟩
  | v6 a => exact ⟨':', by decide, hfold rfl a.mem_text⟩

end Address
end WebSocket
