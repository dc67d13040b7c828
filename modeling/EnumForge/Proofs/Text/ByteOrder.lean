import EnumForge.Text.Utf8
import Mathlib.Data.List.Lex

namespace EnumForge.Text

/-- The bytes of the smaller character come first, whatever follows either. -/
theorem utf8EncodeChar_append_lt {c d : Char} (h : c < d) (x y : List UInt8) :
    String.utf8EncodeChar c ++ x < String.utf8EncodeChar d ++ y := by
  have hlt : c.val.toNat < d.val.toNat := h
  have hd : d.val.toNat < 0x110000 := by
    have hv := d.valid
    simp only [UInt32.isValidChar, Nat.isValidChar] at hv
    omega
  unfold String.utf8EncodeChar
  generalize c.val.toNat = m at hlt
  generalize d.val.toNat = n at hlt hd
  -- one division by 64 after the other, so that each digit is told from the number before it
  have h1 (v : Nat) : v / 262144 = v / 64 / 64 / 64 := by omega
  have h2 (v : Nat) : v / 4096 = v / 64 / 64 := by omega
  dsimp only
  split_ifs <;>
    simp only [List.cons_append, List.nil_append, List.cons_lt_cons_iff, UInt8.lt_iff_toNat_lt,
      ← UInt8.toNat_inj, UInt8.toNat_ofNat', h1, h2] <;>
    omega

theorem utf8_lt_of_lt {s t : List Char} (h : s < t) : utf8 s < utf8 t := by
  induction h with
  | @nil c t =>
    have hne : utf8 (c :: t) ≠ [] := by simp [utf8, String.utf8EncodeChar_ne_nil]
    obtain ⟨b, bs, hb⟩ := List.exists_cons_of_ne_nil hne
    rw [hb]
    exact List.Lex.nil
  | rel hcd => exact utf8EncodeChar_append_lt hcd _ _
  | cons _ ih => exact List.append_left_lt ih

/-- Byte order is the order of characters. -/
theorem utf8_lt_iff (s t : String) : utf8 s.toList < utf8 t.toList ↔ s < t := by
  constructor
  · intro h
    by_contra hst
    by_cases hle : s ≤ t
    · rw [String.le_antisymm hle (String.not_lt.1 hst)] at h
      exact List.lt_irrefl _ h
    · exact List.lt_asymm h (utf8_lt_of_lt (String.not_le.1 hle))
  · exact fun h => utf8_lt_of_lt h

theorem utf8_le_iff (s t : String) : utf8 s.toList ≤ utf8 t.toList ↔ s ≤ t := by
  rw [← List.not_lt, ← String.not_lt, utf8_lt_iff]

end EnumForge.Text
