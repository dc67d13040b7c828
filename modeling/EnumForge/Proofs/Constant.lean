import EnumForge.Proofs.Emission
import EnumForge.Proofs.Source.Word
import EnumForge.Proofs.Unicode.Uppercase

namespace EnumForge.Naming

open Source Unicode

/-- A capital letter of ASCII, a digit or the underscore. -/
def isConstantChar (c : Char) : Bool := c.isUpper || c.isDigit || c == '_'

theorem isConstantChar_iff (c : Char) :
    isConstantChar c = true ↔
      (0x41 ≤ c.toNat ∧ c.toNat ≤ 0x5a) ∨ (0x30 ≤ c.toNat ∧ c.toNat ≤ 0x39) ∨ c = '_' := by
  have hupper : c.isUpper = true ↔ 0x41 ≤ c.toNat ∧ c.toNat ≤ 0x5a := by
    change decide ('A'.val ≤ c.val ∧ c.val ≤ 'Z'.val) = true ↔ _
    simp only [decide_eq_true_eq, UInt32.le_iff_toNat_le]
    exact Iff.rfl
  rw [isConstantChar, Bool.or_eq_true, Bool.or_eq_true, hupper, isDigit_iff, beq_iff_eq, or_assoc]

/-- A character that is kept and is no small letter may stand in a constant's name. -/
theorem isConstantChar_iff_isKept (c : Char) :
    isConstantChar c = true ↔ isKept c = true ∧ ¬ IsSmall c.toNat := by
  have hkept : isKept c = true ↔ (c.isAlpha = true ∨ c.isDigit = true) ∨ c = '_' := by
    change ((c.isAlpha || c.isDigit) || c == '_') = true ↔ _
    rw [Bool.or_eq_true, Bool.or_eq_true, beq_iff_eq]
  rw [isConstantChar_iff, hkept, isAlpha_iff, isDigit_iff, IsSmall]
  constructor
  · rintro (hcapital | hdigit | rfl)
    · exact ⟨.inl (.inl (.inl hcapital)), by omega⟩
    · exact ⟨.inl (.inr hdigit), by omega⟩
    · exact ⟨.inr rfl, by decide⟩
  · rintro ⟨((hcapital | hsmall) | hdigit) | hunderscore, hlarge⟩
    · exact .inl hcapital
    · exact absurd hsmall hlarge
    · exact .inr (.inl hdigit)
    · exact .inr (.inr hunderscore)

theorem isConstantChar_of_mem_sanitize {label : List Char} {c : Char} (h : c ∈ sanitize label) :
    isConstantChar c = true := by
  obtain ⟨hupper, hkept⟩ := List.mem_filter.1 h
  exact (isConstantChar_iff_isKept c).2 ⟨hkept, not_isSmall_of_mem_uppercase hupper⟩

/-- Sanitizing an ASCII label takes no table. -/
theorem sanitize_of_ascii {label : List Char} (h : ∀ c ∈ label, c.toNat < 0x80) :
    sanitize label = (label.map Char.toUpper).filter isKept := by
  rw [sanitize, uppercase_of_ascii h]

theorem sanitize_eq_self {label : List Char} (h : ∀ c ∈ label, isConstantChar c = true) :
    sanitize label = label := by
  have hplain : ∀ c ∈ label, c.toNat < 0x80 ∧ c.toUpper = c ∧ isKept c = true := by
    intro c hc
    obtain ⟨hkept, hlarge⟩ := (isConstantChar_iff_isKept c).1 (h c hc)
    refine ⟨?_, toUpper_eq_self hlarge, hkept⟩
    rcases (isConstantChar_iff c).1 (h c hc) with hcapital | hdigit | rfl
    · omega
    · omega
    · decide
  have hupper : label.map Char.toUpper = label :=
    (List.map_congr_left fun c hc => (hplain c hc).2.1).trans label.map_id
  rw [sanitize_of_ascii fun c hc => (hplain c hc).1, hupper, List.filter_eq_self]
  exact fun c hc => (hplain c hc).2.2

theorem sanitize_sanitize (label : List Char) : sanitize (sanitize label) = sanitize label :=
  sanitize_eq_self fun _ hc => isConstantChar_of_mem_sanitize hc

theorem constantName_of_nil (family : String) {label : String}
    (h : sanitize label.toList = []) :
    constantName family label = .error (.emptyIdentifier family label) := by
  rw [constantName, h]

theorem constantName_of_ne_nil (family : String) {label : String}
    (h : sanitize label.toList ≠ []) :
    constantName family label =
      .ok (family ++ "_" ++ String.ofList (sanitize label.toList)) := by
  unfold constantName
  split
  · next hnil => exact absurd hnil h
  · rfl

/-- An identifier that goes on after an underscore is read as an identifier. -/
theorem readsAsIdentifier_append {name : String} (h : isIdentifier name = true) {tail : List Char}
    (htail : tail.all isWordChar = true) :
    readsAsIdentifier (name ++ "_" ++ String.ofList tail) = true := by
  have hne : name.toList ≠ [] := by
    intro hnil
    simp [isIdentifier, hnil, isWord] at h
  have htext : name ++ "_" ++ String.ofList tail = String.ofList (name.toList ++ '_' :: tail) := by
    simp [← String.toList_inj]
  refine (readsAsIdentifier_iff _).2 ⟨_, tokens?_of_isIdentifier (isIdentifier_append h htail), ?_⟩
  rw [htext]
  exact not_keyword_of_underscore hne tail

/-- Sanitizing is made for each character by itself, gives capitals, digits and underscores, and
leaves them alone. A label of which nothing is left has no constant; any other has one, and its name
is an identifier that begins with the identifier of the family and ends with the sanitized label. -/
theorem sanitized_labels :
    (∀ a b, sanitize (a ++ b) = sanitize a ++ sanitize b) ∧
    (∀ label, sanitize (sanitize label) = sanitize label) ∧
    (∀ label, ∀ c ∈ sanitize label, isConstantChar c = true) ∧
    (∀ label, (∀ c ∈ label, isConstantChar c = true) → sanitize label = label) ∧
    ∀ family label : String, isIdentifier family = true →
      (constantName family label = .error (.emptyIdentifier family label) ↔
        sanitize label.toList = []) ∧
      (sanitize label.toList ≠ [] → ∃ name, constantName family label = .ok name ∧
        isIdentifier name = true ∧ readsAsIdentifier name = true ∧
        family.toList <+: name.toList ∧ sanitize label.toList <:+ name.toList) := by
  refine ⟨sanitize_append, sanitize_sanitize, fun _ _ => isConstantChar_of_mem_sanitize,
    fun _ => sanitize_eq_self, ?_⟩
  intro family label hfamily
  constructor
  · constructor
    · intro herror
      by_contra hsome
      simp [constantName_of_ne_nil family hsome] at herror
    · exact constantName_of_nil family
  · intro hsome
    have htail : (sanitize label.toList).all isWordChar = true :=
      List.all_eq_true.2 fun _ hc => isWordChar_of_mem_sanitize hc
    refine ⟨_, constantName_of_ne_nil family hsome, isIdentifier_append hfamily htail,
      readsAsIdentifier_append hfamily htail, ?_, ?_⟩
    · rw [String.append_assoc, String.toList_append]
      exact List.prefix_append _ _
    · rw [String.toList_append, String.toList_ofList]
      exact List.suffix_append _ _

/-- Letters that are no ASCII letters give such letters, and a raw name may be continued too. -/
theorem floss_sanitized :
    sanitize "ﬂoß ı".toList = "FLOSSI".toList ∧
      isIdentifier "r#type" = true ∧
      (∃ name, constantName "r#type" "ﬂoß ı" = .ok name ∧ isIdentifier name = true ∧
        readsAsIdentifier name = true ∧ "r#type".toList <+: name.toList ∧
        "FLOSSI".toList <:+ name.toList) ∧
      constantName "r#type" "é!" = .error (.emptyIdentifier "r#type" "é!") ∧
      sanitize "FLOSSI".toList = "FLOSSI".toList := by
  have hraw : isIdentifier "r#type" = true := by decide +kernel
  have hfloss : sanitize "ﬂoß ı".toList = "FLOSSI".toList := by decide +kernel
  have hnothing : sanitize "é!".toList = [] := by decide +kernel
  have hplain : "FLOSSI".toList.all isConstantChar = true := by decide
  obtain ⟨-, -, -, hkeeps, hconstants⟩ := sanitized_labels
  refine ⟨hfloss, hraw, ?_, ?_, hkeeps _ (List.all_eq_true.1 hplain)⟩
  · have hsome : sanitize "ﬂoß ı".toList ≠ [] := by
      rw [hfloss]
      decide
    obtain ⟨name, hname, hid, hreads, hbegins, hends⟩ := (hconstants "r#type" "ﬂoß ı" hraw).2 hsome
    exact ⟨name, hname, hid, hreads, hbegins, hfloss ▸ hends⟩
  · exact (hconstants "r#type" "é!" hraw).1.2 hnothing

end EnumForge.Naming
