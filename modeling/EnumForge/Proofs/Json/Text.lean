import EnumForge.Proofs.Json.Grammar

namespace EnumForge.Json

open EnumForge.Text

/-- A control character is written as four digits, which denote it. -/
theorem hexUnit_hexPadded {c : Char} (h : c < ' ') : HexUnit (hexPadded 4 c.toNat) c.toNat where
  length := by
    have hlt : c.toNat < 32 := h
    exact length_hexPadded (by decide) (Nat.lt_trans hlt (by decide))
  value := hexValue?_hexPadded 4 c.toNat

theorem writes_encodeChar (c : Char) : Writes (encodeChar c) c := by
  unfold encodeChar
  split_ifs with h1 h2 h3 h4 h5 h6 h7 h8
  · exact .short (by rw [h1]; decide)
  · exact .short (by rw [h2]; decide)
  · exact .short (by rw [h3]; decide)
  · exact .short (by rw [h4]; decide)
  · exact .short (by rw [h5]; decide)
  · exact .short (by rw [h6]; decide)
  · exact .short (by rw [h7]; decide)
  · exact .unit (hexUnit_hexPadded h8)
  · exact .plain (Char.not_lt.1 h8) h1 h2

theorem denotes_flatMap_encodeChar (s : List Char) : Denotes (s.flatMap encodeChar) s := by
  induction s with
  | nil => exact .nil
  | cons c s ih => exact .cons (writes_encodeChar c) ih

theorem readStringValue_stringText (s : String) :
    readStringValue (stringText s).toList = .ok (s.toList, []) := by
  rw [readStringValue_eq_ok_iff, stringText, String.toList_ofList]
  exact ⟨[], _, rfl, rfl, denotes_flatMap_encodeChar s.toList⟩

/-- The written form of a text is a document that denotes the text. -/
theorem stringDocument_stringText (s : String) : StringDocument (stringText s) s := by
  rw [StringDocument, stringText, String.toList_ofList]
  exact ⟨[], _, [], rfl, rfl, rfl, denotes_flatMap_encodeChar s.toList⟩

/-- A document that is the written form of a text holds the text. -/
theorem readDocument_stringText (s : String) :
    readDocument readStringValue (stringText s) = .ok s.toList := by
  rw [readDocument_readStringValue_iff, String.ofList_toList]
  exact stringDocument_stringText s

end EnumForge.Json
