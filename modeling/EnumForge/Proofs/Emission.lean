import EnumForge.Proofs.Generation
import EnumForge.Proofs.Source.Identifier

namespace EnumForge

namespace Naming

open Source Unicode

/-- A name that is one word, with nothing around it. -/
def StandsAlone (name : String) : Prop := tokens? name.toList = some [.word name]

instance (name : String) : Decidable (StandsAlone name) :=
  inferInstanceAs (Decidable (tokens? name.toList = some [.word name]))

theorem readsAsIdentifier_iff (name : String) :
    readsAsIdentifier name = true ↔
      ∃ w, tokens? name.toList = some [.word w] ∧ w ∉ keywords := by
  unfold readsAsIdentifier
  split
  · next w hw => simp [hw]
  · next hother =>
    constructor
    · intro h
      exact absurd h (by decide)
    · rintro ⟨w, hw, -⟩
      exact absurd hw (hother w)

/-- Which names the checks let pass: what is read as one word, unless the word is taken. -/
theorem checkFamilyName_eq_ok_iff (name : String) :
    checkFamilyName name = .ok () ↔
      (name ∉ preambleNames ∧ name ∉ primitiveTypes) ∧
        ['r', '#'].isPrefixOf name.toList = false ∧ name ∉ newKeywords ∧
          ∃ w, tokens? name.toList = some [.word w] ∧ w ∉ keywords := by
  rw [← readsAsIdentifier_iff, checkFamilyName]
  split
  · next htaken =>
    simp only [Bool.or_eq_true, List.contains_iff_mem] at htaken
    constructor
    · intro h
      simp at h
    · rintro ⟨⟨hpreamble, hprimitive⟩, -⟩
      exact (htaken.elim hpreamble hprimitive).elim
  · next hfree =>
    simp only [Bool.or_eq_true, List.contains_iff_mem, not_or] at hfree
    split
    · next hbad =>
      simp only [Bool.or_eq_true, List.contains_iff_mem, Bool.not_eq_true'] at hbad
      constructor
      · intro h
        simp at h
      · rintro ⟨-, hraw, hkeyword, hreads⟩
        rcases hbad with (hr | hk) | hn
        · exact absurd hr (Bool.eq_false_iff.1 hraw)
        · exact absurd hk hkeyword
        · exact absurd hreads (Bool.eq_false_iff.1 hn)
    · next hgood =>
      simp only [Bool.or_eq_true, List.contains_iff_mem, Bool.not_eq_true', not_or,
        Bool.not_eq_false] at hgood
      obtain ⟨⟨hraw, hkeyword⟩, hreads⟩ := hgood
      constructor
      · intro _
        exact ⟨hfree, Bool.eq_false_iff.2 hraw, hkeyword, hreads⟩
      · intro _
        rfl

theorem not_raw_of_checkFamilyName {name : String} (h : checkFamilyName name = .ok ()) :
    ['r', '#'].isPrefixOf name.toList = false :=
  ((checkFamilyName_eq_ok_iff name).1 h).2.1

/-- Of the names that the checks let pass, those that stand alone can be written. -/
theorem isIdentifier_iff_standsAlone {name : String} (h : checkFamilyName name = .ok ()) :
    isIdentifier name = true ↔ StandsAlone name := by
  constructor
  · intro hid
    obtain ⟨-, -, -, w, hw, -⟩ := (checkFamilyName_eq_ok_iff name).1 h
    have hword := isWord_of_isIdentifier hid (not_raw_of_checkFamilyName h)
    have hname := eq_of_tokens?_of_isWord hword hw
    rw [String.ofList_toList] at hname
    rw [StandsAlone, hw, hname]
  · intro halone
    exact isIdentifier_of_mem_tokensFrom halone (List.mem_singleton.2 rfl)

theorem isWordChar_of_mem_sanitize {label : List Char} {c : Char} (h : c ∈ sanitize label) :
    isWordChar c = true := by
  have hkept := isKept_of_mem_sanitize h
  rw [isKept, Bool.or_eq_true, beq_iff_eq] at hkept
  rcases hkept with hc | rfl
  · exact isXidContinue_of_isAlphanum hc
  · exact isWordChar_underscore

end Naming

open Naming Source

/-- A family's name that can be written can be continued to the name of each constant. -/
theorem isIdentifier_constant {name : String} (h : isIdentifier name = true) (m : Member) :
    isIdentifier (m.constant name) = true :=
  isIdentifier_append h (List.all_eq_true.2 fun _ hc => isWordChar_of_mem_sanitize hc)

theorem Family.find?_identifiers (f : Family) (width : Width) :
    (f.code width).identifiers.find? (!isIdentifier ·) =
      if isIdentifier f.name then none else some f.name := by
  rw [FamilyCode.identifiers_code, List.find?_cons]
  by_cases hid : isIdentifier f.name = true
  · rw [hid]
    simp only [Bool.not_true, if_true, List.find?_eq_none, List.mem_map]
    rintro _ ⟨m, -, rfl⟩
    simp [isIdentifier_constant hid m]
  · simp [hid]

/-- The first name that cannot be written is a family's. -/
theorem Library.Accepted.unwritable?_eq {library : Library} {options : Options}
    (h : library.Accepted options) :
    library.unwritable? options.width =
      (library.families.map Family.name).find? (fun name => !decide (StandsAlone name)) := by
  have hsound := h.sound
  rw [unwritable?, identifiers]
  generalize library.families = fs at hsound
  induction fs with
  | nil => rfl
  | cons f fs ih =>
    obtain ⟨hf, hfs⟩ := List.forall_mem_cons.1 hsound
    rw [List.flatMap_cons, List.find?_append, f.find?_identifiers, ih hfs, List.map_cons,
      List.find?_cons]
    by_cases hid : isIdentifier f.name = true
    · have halone := (isIdentifier_iff_standsAlone hf.name).1 hid
      simp [hid, halone]
    · have halone := (isIdentifier_iff_standsAlone hf.name).not.1 hid
      simp [hid, halone]

/-- Generation gives up exactly on what the checks accept although a family's name does not stand
alone, and it gives up at the first such name. -/
theorem generate_eq_unemittable_iff (library : Library) (options : Options) (name : String) :
    (generate library options).result = .error (.unemittable name) ↔
      (validate library options).result = .ok () ∧
        (library.families.map Family.name).find? (fun n => !decide (StandsAlone n)) =
          some name := by
  rw [generate_result]
  cases hv : (validate library options).result with
  | error e => simp
  | ok u =>
    have ha := (validate_eq_ok_iff library options).1 hv
    rw [← ha.unwritable?_eq]
    cases library.unwritable? options.width with
    | none => simp
    | some n => simp

theorem names_stand_alone_iff (library : Library) :
    (library.families.map Family.name).find? (fun n => !decide (StandsAlone n)) = none ↔
      ∀ f ∈ library.families, StandsAlone f.name := by
  simp

/-- Generation ends with an error of the checks or with a text, and all names that it writes are
identifiers, exactly when each family's name that passes the checks stands alone. -/
theorem generate_returns_iff (library : Library) (options : Options) :
    ((∃ e, (generate library options).result = .error (.reported e)) ∨
        (∃ text, (generate library options).result = .ok text) ↔
      ((validate library options).result = .ok () →
        ∀ f ∈ library.families, StandsAlone f.name)) ∧
    ((validate library options).result = .ok () →
      ((∀ name ∈ library.identifiers options.width, isIdentifier name = true) ↔
        ∀ f ∈ library.families, StandsAlone f.name)) := by
  rw [generate_result]
  cases hv : (validate library options).result with
  | error e => simp
  | ok u =>
    have ha := (validate_eq_ok_iff library options).1 hv
    rw [← names_stand_alone_iff, ← ha.unwritable?_eq, ← library.unwritable?_eq_none_iff]
    refine ⟨?_, fun _ => Iff.rfl⟩
    cases library.unwritable? options.width with
    | none => simp
    | some n => simp

/-- A blank before the name of a family goes unnoticed by the checks. -/
def Library.blankBeforeName : Library where
  families := [⟨" Color", [⟨"Red", 1⟩], by decide⟩]
  sorted := by decide

theorem blankBeforeName_unemittable :
    (validate Library.blankBeforeName .default).result = .ok () ∧
      (generate Library.blankBeforeName .default).result = .error (.unemittable " Color") := by
  have hv : (validate Library.blankBeforeName .default).result = .ok () := by decide +kernel
  have hname : (Library.blankBeforeName.families.map Family.name).find?
      (fun n => !decide (StandsAlone n)) = some " Color" := by decide +kernel
  exact ⟨hv, (generate_eq_unemittable_iff _ _ _).2 ⟨hv, hname⟩⟩

end EnumForge
