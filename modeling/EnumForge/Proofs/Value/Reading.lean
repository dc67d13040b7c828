import EnumForge.Proofs.Json.Text
import EnumForge.Proofs.Value.Fallback

namespace EnumForge

open Json

theorem Json.piecesText_eq (pieces : List String) :
    piecesText pieces = stringText (String.join pieces) := by
  rw [piecesText, stringText, encode, String.toList_join, List.flatMap_assoc]

namespace FamilyCode

variable (code : FamilyCode)

theorem readValue_eq_ok_iff (s rest : List Char) (v : UInt64) :
    code.readValue s = .ok (v, rest) ↔
      ∃ label, readStringValue s = .ok (label, rest) ∧
        code.fromName? (String.ofList label) = some v := by
  unfold readValue
  rw [except_bind_eq_ok_iff]
  constructor
  · rintro ⟨⟨label, r⟩, hlabel, h⟩
    dsimp only at h
    split at h
    · next w hw =>
      obtain ⟨rfl, rfl⟩ := Prod.mk.inj (Except.ok.inj h)
      exact ⟨label, hlabel, hw⟩
    · simp at h
  · rintro ⟨label, hlabel, hv⟩
    exact ⟨_, hlabel, by simp only [hv]⟩

theorem join_pieces (v : UInt64) : String.join (code.pieces v) = code.display v := by
  unfold pieces display
  cases code.name? v with
  | some label => rw [← String.toList_inj, String.toList_join]; simp
  | none =>
    rw [← String.toList_inj, String.toList_join, Option.getD_none, toList_fallback]
    simp

theorem serialized_eq_json (v : UInt64) : code.serialized v = code.json v := by
  rw [serialized, piecesText_eq, join_pieces, json]

end FamilyCode

/-! The code of a family that generation gives text for. -/

/-- What the readings of a family's code make of a text, in terms of the members of the family. -/
structure Family.Reads (width : Width) (f : Family) : Prop where
  /-- A text gives a value when it is one JSON string that denotes a label of the value. -/
  value_iff : ∀ t v, (f.code width).ofJson t = .ok v ↔
    ∃ label, StringDocument t label ∧ ⟨label, v⟩ ∈ f.members
  unknown_iff : ∀ t family label, (f.code width).ofJson t = .error (.unknownLabel family label) ↔
    family = f.name ∧ StringDocument t label ∧ ∀ m ∈ f.members, m.label ≠ label
  malformed_iff : ∀ t, (∃ e, (f.code width).ofJson t = .error (.malformed e)) ↔
    ∀ label, ¬ StringDocument t label
  document_iff : ∀ t v, (f.code width).ofDocument t = .ok v ↔ (f.code width).ofJson t = .ok v
  /-- A label by itself is read as any string that denotes it. -/
  label_eq : ∀ t label, StringDocument t label →
    (f.code width).ofLabel label = (f.code width).ofJson t
  written_eq : ∀ label, (f.code width).ofLabel label = (f.code width).ofJson (stringText label)

end EnumForge
