import EnumForge.Proofs.Emit.Lookup
import EnumForge.Proofs.Json.Text
import EnumForge.Value.Json

namespace EnumForge

open Text Json

namespace FamilyCode

variable (code : FamilyCode)

/-- Each reading of a text form of the value ends with the error of an unknown label. -/
structure Unreadable (value : UInt64) : Prop where
  ofJson : code.ofJson (code.json value) = .error (.unknownLabel code.name (code.display value))
  ofLabel : code.ofLabel (code.display value) =
    .error (.unknownLabel code.name (code.display value))
  ofDocument : code.ofDocument (code.json value) =
    .error ⟨.unknownLabel code.name (code.display value), none⟩

/-- The JSON form of a value is read as the label that the value is shown by. -/
theorem ofJson_json (value : UInt64) : code.ofJson (code.json value) =
    code.ofLabel (code.display value) := by
  rw [ofJson, json, readDocument_stringText]
  simp only [Except.mapError, bind, Except.bind, String.ofList_toList]

theorem ofDocument_json (value : UInt64) : code.ofDocument (code.json value) =
    match code.fromName? (code.display value) with
    | some v => .ok v
    | none => .error ⟨.unknownLabel code.name (code.display value), none⟩ := by
  rw [ofDocument, readDocument, json, readValue, readStringValue_stringText]
  simp only [bind, Except.bind, String.ofList_toList]
  cases code.fromName? (code.display value) with
  | some v => rfl
  | none => rfl

theorem unreadable_iff (value : UInt64) :
    code.Unreadable value ↔ code.fromName? (code.display value) = none := by
  constructor
  · intro h
    have hlabel := h.ofLabel
    rw [ofLabel] at hlabel
    split at hlabel
    · simp at hlabel
    · next hnone => exact hnone
  · intro hnone
    have hlabel : code.ofLabel (code.display value) =
        .error (.unknownLabel code.name (code.display value)) := by
      rw [ofLabel, hnone]
    exact ⟨(code.ofJson_json value).trans hlabel, hlabel, by rw [ofDocument_json, hnone]⟩

theorem toList_fallback (value : UInt64) : (code.fallback value).toList =
    code.name.toList ++ '_' :: '0' :: 'x' :: hexUpper value.toNat := by
  simp [fallback, Error.hexText, toString]

theorem fallback_injective {v w : UInt64} (h : code.fallback v = code.fallback w) : v = w := by
  have hlist := congrArg String.toList h
  rw [toList_fallback, toList_fallback] at hlist
  have hdigits : hexUpper v.toNat = hexUpper w.toNat := by
    simpa using List.append_cancel_left hlist
  exact UInt64.toNat_inj.1 (hexUpper_injective hdigits)

theorem display_of_name?_eq_none {value : UInt64} (h : code.name? value = none) :
    code.display value = code.fallback value := by
  rw [display, h]
  rfl

end FamilyCode

namespace Family

/-- No member has the value. -/
def Undeclared (f : Family) (value : UInt64) : Prop := ∀ m ∈ f.members, m.value ≠ value

/-- No label is the text of an undeclared value of the width. -/
def FreeOfFallbacks (width : Width) (f : Family) : Prop :=
  ∀ v, width.fits v = true → f.Undeclared v →
    ∀ m ∈ f.members, m.label ≠ (f.code width).fallback v

variable {width : Width} {f : Family}

theorem display_of_undeclared {v : UInt64} (hv : f.Undeclared v) :
    (f.code width).display v = (f.code width).fallback v :=
  (f.code width).display_of_name?_eq_none ((f.name?_eq_none_iff width v).2 hv)

/-- A declared value is shown by its greatest label. -/
theorem display_of_greatest {v : UInt64} {l : String} (h : f.Greatest v l) :
    (f.code width).display v = l :=
  FamilyCode.display_of_name? ((f.name?_eq_some_iff width v l).2 h)

/-- A value is shown by one of its labels or has none. -/
theorem greatest_or_undeclared (f : Family) (v : UInt64) :
    (∃ l, f.Greatest v l) ∨ f.Undeclared v := by
  by_cases h : f.Undeclared v
  · exact .inr h
  · simp only [Undeclared, not_forall, not_not] at h
    obtain ⟨m, hm, rfl⟩ := h
    exact .inl (f.exists_greatest hm)

/-- Where no label is the text of an undeclared value, each value has a text of its own. -/
theorem display_injective (hl : (f.members.map Member.label).Nodup)
    (hfree : f.FreeOfFallbacks width) {v w : UInt64} (hv : width.fits v = true)
    (hw : width.fits w = true) (h : (f.code width).display v = (f.code width).display w) :
    v = w := by
  rcases f.greatest_or_undeclared v with ⟨l, hgv⟩ | huv
  · rcases f.greatest_or_undeclared w with ⟨k, hgw⟩ | huw
    · rw [display_of_greatest hgv, display_of_greatest hgw] at h
      have hm : (⟨l, v⟩ : Member) = ⟨k, w⟩ := List.inj_on_of_nodup_map hl hgv.1 hgw.1 h
      exact (Member.mk.inj hm).2
    · rw [display_of_greatest hgv, display_of_undeclared huw] at h
      exact absurd h (hfree w hw huw _ hgv.1)
  · rcases f.greatest_or_undeclared w with ⟨k, hgw⟩ | huw
    · rw [display_of_undeclared huv, display_of_greatest hgw] at h
      exact absurd h.symm (hfree v hv huv _ hgw.1)
    · rw [display_of_undeclared huv, display_of_undeclared huw] at h
      exact (f.code width).fallback_injective h

end Family

/-- An undeclared value cannot be read back exactly when no label is its text. -/
theorem Library.Accepted.unreadable_iff {library : Library} {options : Options} {f : Family}
    (h : library.Accepted options) (hf : f ∈ library.families) {v : UInt64}
    (hv : f.Undeclared v) :
    (f.code options.width).Unreadable v ↔
      ∀ m ∈ f.members, m.label ≠ (f.code options.width).fallback v := by
  rw [FamilyCode.unreadable_iff, Family.display_of_undeclared hv,
    f.fromName?_eq_none_iff options.width (h.nodup_constants hf) (h.nodup_labels hf)]

/-- The texts of undeclared values are refused, and no two values of the width share a text, exactly
when no label of the family is the text of an undeclared value. -/
theorem texts_unambiguous_iff {library : Library} {options : Options} {text : String}
    (h : (generate library options).result = .ok text) {f : Family} (hf : f ∈ library.families) :
    ((∀ v, options.width.fits v = true → f.Undeclared v → (f.code options.width).Unreadable v) ∧
      ∀ v w, options.width.fits v = true → options.width.fits w = true →
        (f.code options.width).display v = (f.code options.width).display w → v = w) ↔
      f.FreeOfFallbacks options.width := by
  have ha := accepted_of_generate h
  have hfree : (∀ v, options.width.fits v = true → f.Undeclared v →
      (f.code options.width).Unreadable v) ↔ f.FreeOfFallbacks options.width := by
    constructor
    · intro hread v hv hu
      exact (ha.unreadable_iff hf hu).1 (hread v hv hu)
    · intro hfree v hv hu
      exact (ha.unreadable_iff hf hu).2 (hfree v hv hu)
  constructor
  · intro hboth
    exact hfree.1 hboth.1
  · intro hnone
    refine ⟨hfree.2 hnone, ?_⟩
    intro v w hv hw hvw
    exact Family.display_injective (ha.nodup_labels hf) hnone hv hw hvw

theorem preferences_freeOfFallbacks :
    ∀ f ∈ Library.preferences.families, f.FreeOfFallbacks .u32 := by
  intro f hf v hv hu m hm heq
  have hchars := congrArg String.toList heq
  rw [FamilyCode.toList_fallback] at hchars
  obtain rfl := List.mem_singleton.1 hf
  simp only [List.mem_cons, List.not_mem_nil, or_false] at hm
  rcases hm with rfl | rfl | rfl
  · simp [Family.code] at hchars
  · simp [Family.code] at hchars
  · simp [Family.code] at hchars

theorem preferences_unambiguous :
    (generate Library.preferences .default).result = .ok (Library.preferences.text .u32) ∧
      ∀ f ∈ Library.preferences.families,
        (∀ v, Width.u32.fits v = true → f.Undeclared v → (f.code .u32).Unreadable v) ∧
        ∀ v w, Width.u32.fits v = true → Width.u32.fits w = true →
          (f.code .u32).display v = (f.code .u32).display w → v = w := by
  refine ⟨generate_preferences, ?_⟩
  intro f hf
  exact (texts_unambiguous_iff generate_preferences hf).2 (preferences_freeOfFallbacks f hf)

/-- A library whose only label is the text of a value that it does not declare. -/
def Library.fallbackLabel : Library where
  families := [⟨"Color", [⟨"Color_0x63", 1⟩], by decide⟩]
  sorted := by decide

/-- The undeclared value 0x63 is shown by the label of the value 1, and is read back as 1. -/
theorem fallbackLabel_ambiguous :
    (generate Library.fallbackLabel .default).result = .ok (Library.fallbackLabel.text .u32) ∧
      ∃ f ∈ Library.fallbackLabel.families, f.Undeclared 0x63 ∧
        Width.u32.fits 0x63 = true ∧ (f.code .u32).ofJson ((f.code .u32).json 0x63) = .ok 1 ∧
        (f.code .u32).ofLabel ((f.code .u32).display 0x63) = .ok 1 ∧
        (f.code .u32).ofDocument ((f.code .u32).json 0x63) = .ok 1 ∧
        (f.code .u32).display 0x63 = (f.code .u32).display 1 := by
  refine ⟨generate_of_validate (by decide +kernel) (by decide +kernel), _, .head _, ?_⟩
  unfold Family.Undeclared
  decide +kernel

end EnumForge
