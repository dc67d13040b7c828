import EnumForge.Proofs.Value.Fallback

namespace EnumForge

namespace Text.Field

/-- The field in which nothing is asked for. -/
def plain : Field := ⟨none, none, ' ', none⟩

def padText (field : Field) (s : String) : String := String.ofList (field.pad s.toList)

/-- The field neither cuts a text nor fills it up. -/
structure Spares (field : Field) (s : List Char) : Prop where
  width_le : field.width.getD 0 ≤ s.length
  le_precision : ∀ p, field.precision = some p → s.length ≤ p

/-- The field cuts off the end of a text and fills it up with the same characters. -/
structure Restores (field : Field) (s : List Char) (p : Nat) : Prop where
  precision_eq : field.precision = some p
  cut : p < s.length
  width_eq : field.width = some s.length
  flush : (field.gaps p).1 = 0
  filled : ∀ c ∈ s.drop p, c = field.fill

theorem shown_of_le {field : Field} {s : List Char}
    (h : ∀ p, field.precision = some p → s.length ≤ p) : field.shown s = s := by
  unfold shown
  split
  · rfl
  · next p hp => exact List.take_of_length_le (h p hp)

theorem pad_of_spares {field : Field} {s : List Char} (h : field.Spares s) : field.pad s = s := by
  have hgaps := field.gaps_sum s.length
  have hwidth := h.width_le
  have hleft : (field.gaps s.length).1 = 0 := by omega
  have hright : (field.gaps s.length).2 = 0 := by omega
  simp [pad, shown_of_le h.le_precision, hleft, hright]

theorem pad_of_restores {field : Field} {s : List Char} {p : Nat} (h : field.Restores s p) :
    field.pad s = s := by
  have hshown : field.shown s = s.take p := by
    rw [shown, h.precision_eq]
  have hlength : (s.take p).length = p := List.length_take_of_le h.cut.le
  have hgaps := field.gaps_sum p
  rw [h.width_eq, h.flush, Nat.zero_add, Option.getD_some] at hgaps
  have hdrop : s.drop p = List.replicate (s.length - p) field.fill :=
    List.eq_replicate_iff.2 ⟨List.length_drop, h.filled⟩
  simp only [pad, hshown, hlength, h.flush, hgaps, List.replicate_zero, List.nil_append]
  rw [← hdrop, List.take_append_drop]

/-- A text that comes back after a character has been put before it consists of that character. -/
theorem eq_fill_of_shifted {c : Char} {k p : Nat} {s rest : List Char} (hk : 0 < k)
    (hs : s = List.replicate k c ++ (s.take p ++ rest)) (hrest : ∀ x ∈ rest, x = c) :
    ∀ x ∈ s, x = c := by
  -- each prefix is made of what is put before and of a shorter prefix
  have hprefix : ∀ j ≤ p, ∀ x ∈ s.take j, x = c := by
    intro j
    induction j with
    | zero => simp
    | succ j ih =>
      intro hj x hx
      rw [hs, List.take_append, List.length_replicate] at hx
      rcases List.mem_append.1 hx with hx | hx
      · exact List.eq_of_mem_replicate (List.mem_of_mem_take hx)
      · rw [List.take_append] at hx
        rcases List.mem_append.1 hx with hx | hx
        · rw [List.take_take] at hx
          refine ih (Nat.le_of_succ_le hj) x ?_
          exact (List.take_sublist_take_left (by omega)).mem hx
        · exact hrest x (List.mem_of_mem_take hx)
  intro x hx
  rw [hs] at hx
  rcases List.mem_append.1 hx with hx | hx
  · exact List.eq_of_mem_replicate hx
  · rcases List.mem_append.1 hx with hx | hx
    · exact hprefix p (Nat.le_refl p) x hx
    · exact hrest x hx

/-- A text that is not all filling stays as it is in a field that spares it or that puts back what it
cuts off. -/
theorem pad_eq_self_iff {field : Field} {s : List Char} (hs : ∃ c ∈ s, c ≠ field.fill) :
    field.pad s = s ↔ field.Spares s ∨ ∃ p, field.Restores s p := by
  constructor
  · intro h
    have hlength := field.pad_length s
    rw [h] at hlength
    by_cases hcut : ∃ p, field.precision = some p ∧ p < s.length
    · obtain ⟨p, hp, hlt⟩ := hcut
      have hshown : field.shown s = s.take p := by rw [shown, hp]
      have hp' : (s.take p).length = p := List.length_take_of_le hlt.le
      rw [hshown, hp'] at hlength
      simp only [pad, hshown, hp', List.append_assoc] at h
      have hwidth : field.width = some s.length := by
        cases hw : field.width with
        | none => simp [hw] at hlength; omega
        | some w => simp [hw] at hlength ⊢; omega
      have hflush : (field.gaps p).1 = 0 := by
        by_contra hk
        obtain ⟨c, hc, hne⟩ := hs
        refine hne (eq_fill_of_shifted (Nat.pos_of_ne_zero hk) h.symm ?_ c hc)
        exact fun x hx => List.eq_of_mem_replicate hx
      refine .inr ⟨p, hp, hlt, hwidth, hflush, ?_⟩
      rw [hflush, List.replicate_zero, List.nil_append] at h
      have hdrop := List.append_cancel_left (h.trans (List.take_append_drop p s).symm)
      intro c hc
      rw [← hdrop] at hc
      exact List.eq_of_mem_replicate hc
    · have hprecision : ∀ p, field.precision = some p → s.length ≤ p := by
        intro p hp
        by_contra hlt
        exact hcut ⟨p, hp, Nat.not_le.1 hlt⟩
      rw [shown_of_le hprecision] at hlength
      exact .inl ⟨by omega, hprecision⟩
  · rintro (h | ⟨p, h⟩)
    · exact pad_of_spares h
    · exact pad_of_restores h

theorem pad_plain (s : List Char) : plain.pad s = s :=
  pad_of_spares ⟨Nat.zero_le _, by simp [plain]⟩

end Text.Field

namespace FamilyCode

variable (code : FamilyCode)

/-- The text of a value is what is shown of it where nothing is asked for. -/
theorem format_plain (v : UInt64) : code.format .plain v = code.display v := by
  unfold format display
  cases code.name? v with
  | some label => simp [Text.Field.pad_plain]
  | none => rfl

theorem format_of_declared {v : UInt64} {label : String} (h : code.name? v = some label)
    (field : Text.Field) : code.format field v = field.padText (code.display v) := by
  rw [format, h, display_of_name? h]
  rfl

theorem format_of_undeclared {v : UInt64} (h : code.name? v = none) (field : Text.Field) :
    code.format field v = code.display v := by
  rw [format, h, display_of_name?_eq_none code h]

end FamilyCode

/-- The text of an undeclared value holds characters other than any one. -/
theorem FamilyCode.exists_ne_mem_fallback (code : FamilyCode) (v : UInt64) (c : Char) :
    ∃ d ∈ (code.fallback v).toList, d ≠ c := by
  rw [toList_fallback]
  by_cases hc : c = 'x'
  · exact ⟨'_', by simp, by simp [hc]⟩
  · exact ⟨'x', by simp, Ne.symm hc⟩

/-- The text of an undeclared value is as it is in any field only where the field leaves it so. -/
theorem FamilyCode.format_eq_padText_of_undeclared (code : FamilyCode) {v : UInt64}
    (h : code.name? v = none) (field : Text.Field) :
    code.format field v = field.padText (code.display v) ↔
      field.Spares (code.fallback v).toList ∨ ∃ p, field.Restores (code.fallback v).toList p := by
  rw [← Text.Field.pad_eq_self_iff (code.exists_ne_mem_fallback v field.fill),
    code.format_of_undeclared h, code.display_of_name?_eq_none h, Text.Field.padText,
    ← String.toList_inj, String.toList_ofList, eq_comm]

/-- A value is shown in a field as its text is exactly when it is declared or the field leaves its
text as it is; so the values that are shown as their texts are in every field are the declared
ones. -/
theorem format_eq_padText_iff (width : Width) (f : Family) (v : UInt64) :
    (f.code width).format .plain v = (f.code width).display v ∧
    (∀ field : Text.Field,
      (f.code width).format field v = field.padText ((f.code width).display v) ↔
        (∃ m ∈ f.members, m.value = v) ∨ field.Spares ((f.code width).fallback v).toList ∨
          ∃ p, field.Restores ((f.code width).fallback v).toList p) ∧
    ((∀ field : Text.Field,
      (f.code width).format field v = field.padText ((f.code width).display v)) ↔
        ∃ m ∈ f.members, m.value = v) := by
  refine ⟨(f.code width).format_plain v, ?_⟩
  rcases f.greatest_or_undeclared v with ⟨l, hl⟩ | hu
  · have hdeclared : ∃ m ∈ f.members, m.value = v := ⟨_, hl.1, rfl⟩
    have hformat := (f.code width).format_of_declared ((f.name?_eq_some_iff width v l).2 hl)
    exact ⟨fun field => iff_of_true (hformat field) (.inl hdeclared),
      iff_of_true hformat hdeclared⟩
  · have hdeclared : ¬ ∃ m ∈ f.members, m.value = v := by
      rintro ⟨m, hm, hv⟩
      exact hu m hm hv
    have hformat := (f.code width).format_eq_padText_of_undeclared
      ((f.name?_eq_none_iff width v).2 hu)
    refine ⟨fun field => by rw [hformat field, or_iff_right hdeclared], iff_of_false ?_ hdeclared⟩
    intro hall
    -- one more place than the text has characters
    let wide : Text.Field := ⟨some (((f.code width).fallback v).toList.length + 1), none, ' ', none⟩
    rcases (hformat wide).1 (hall wide) with hspares | ⟨p, hrestores⟩
    · exact absurd hspares.width_le (Nat.not_succ_le_self _)
    · simpa [wide] using hrestores.precision_eq

/-- The text of an undeclared value stands at the left of a field that asks for the right. -/
theorem preferences_format_not_padded :
    (generate .preferences .default).result = .ok (Library.preferences.text .u32) ∧
      ∃ f ∈ Library.preferences.families,
        (f.code .u32).display 99 = "Preference_0x63" ∧
        (f.code .u32).format ⟨some 20, some .right, ' ', none⟩ 99 = "Preference_0x63" ∧
        Text.Field.padText ⟨some 20, some .right, ' ', none⟩ ((f.code .u32).display 99) =
          "     Preference_0x63" := by
  refine ⟨generate_of_validate (by decide +kernel) (by decide +kernel), _, .head _, ?_⟩
  decide +kernel

end EnumForge
