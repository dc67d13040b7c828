import EnumForge.Proofs.Emission
import EnumForge.Proofs.Source.Word
import EnumForge.Proofs.Violation

namespace EnumForge.Naming

open Source Unicode

/-- Keywords that the language uses. -/
def strictKeywords : List String :=
  ["as", "async", "await", "break", "const", "continue", "crate", "dyn", "else", "enum", "extern",
   "false", "fn", "for", "if", "impl", "in", "let", "loop", "match", "mod", "move", "mut", "pub",
   "ref", "return", "Self", "self", "static", "struct", "super", "trait", "true", "type", "unsafe",
   "use", "where", "while"]

/-- Keywords that the language keeps for later. -/
def reservedKeywords : List String :=
  ["abstract", "become", "box", "do", "final", "macro", "override", "priv", "try", "typeof",
   "unsized", "virtual", "yield"]

theorem keywords_perm : keywords.Perm ("_" :: (strictKeywords ++ reservedKeywords)) := by
  decide +kernel

theorem mem_keywords_iff (w : String) :
    w ∈ keywords ↔ w = "_" ∨ w ∈ strictKeywords ∨ w ∈ reservedKeywords := by
  rw [keywords_perm.mem_iff, List.mem_cons, List.mem_append]

/-! Errors of the checks, for any name. -/

theorem checkFamilyName_eq_reservedName_iff (name : String) :
    checkFamilyName name = .error (.reservedName name) ↔
      name ∈ preambleNames ∨ name ∈ primitiveTypes := by
  unfold checkFamilyName
  split
  · next htaken => simpa using htaken
  · next hfree =>
    have hnot : ¬ (name ∈ preambleNames ∨ name ∈ primitiveTypes) := by simpa using hfree
    split
    · simp [hnot]
    · simp [hnot]

/-- What is taken is reported as such, whatever else is wrong with it; all other names that do not
pass are reported as invalid. -/
theorem checkFamilyName_eq_invalidFamilyName_iff (name : String) :
    checkFamilyName name = .error (.invalidFamilyName name) ↔
      checkFamilyName name ≠ .ok () ∧ ¬ (name ∈ preambleNames ∨ name ∈ primitiveTypes) := by
  rw [← checkFamilyName_eq_reservedName_iff]
  constructor
  · intro h
    simp [h]
  · rintro ⟨hfails, hfree⟩
    cases h : checkFamilyName name with
    | ok u => exact absurd h hfails
    | error e =>
      rcases checkFamilyName_eq_error h with rfl | rfl
      · exact absurd h hfree
      · rfl

/-! Names made of the characters of words. -/

theorem isWord_iff_of_isWordChar {s : List Char} (h : s.all isWordChar = true) :
    isWord s = true ↔ ∃ c ∈ s.head?, isWordStart c = true := by
  cases s with
  | nil => simp [isWord]
  | cons c cs =>
    rw [List.all_cons, Bool.and_eq_true] at h
    simp [isWord, h.2]

theorem readsAsIdentifier_iff_of_isWordChar {name : String}
    (h : name.toList.all isWordChar = true) :
    readsAsIdentifier name = true ↔ isWord name.toList = true ∧ name ∉ keywords := by
  rw [readsAsIdentifier_iff]
  simp only [tokens?_eq_word_iff h, String.ofList_toList]
  constructor
  · rintro ⟨w, ⟨hword, rfl⟩, hfree⟩
    exact ⟨hword, hfree⟩
  · rintro ⟨hword, hfree⟩
    exact ⟨name, ⟨hword, rfl⟩, hfree⟩

theorem not_raw_of_isWordChar {s : List Char} (h : s.all isWordChar = true) :
    ['r', '#'].isPrefixOf s = false := by
  rw [Bool.eq_false_iff]
  intro hraw
  have hmark : '#' ∈ s := (List.isPrefixOf_iff_prefix.1 hraw).subset (by simp)
  have hplain := List.all_eq_true.1 h _ hmark
  rw [isWordChar_number_sign] at hplain
  exact absurd hplain (by decide)

/-- A name with no character but those of identifiers passes the checks when it begins as an
identifier may, and is no keyword of any edition, no name of the preamble and no primitive type. The
last two are reported as taken, and everything else that does not pass as invalid. -/
theorem checkFamilyName_of_isXidContinue {name : String}
    (hplain : ∀ c ∈ name.toList, isXidContinue c = true) :
    (checkFamilyName name = .ok () ↔
      (∃ c ∈ name.toList.head?, c = '_' ∨ isXidStart c = true) ∧ name ≠ "_" ∧
        name ∉ strictKeywords ∧ name ∉ reservedKeywords ∧ name ≠ "gen" ∧
          name ∉ preambleNames ∧ name ∉ primitiveTypes) ∧
    (checkFamilyName name = .error (.reservedName name) ↔
      name ∈ preambleNames ∨ name ∈ primitiveTypes) ∧
    (checkFamilyName name = .error (.invalidFamilyName name) ↔
      checkFamilyName name ≠ .ok () ∧ ¬ (name ∈ preambleNames ∨ name ∈ primitiveTypes)) := by
  refine ⟨?_, checkFamilyName_eq_reservedName_iff name,
    checkFamilyName_eq_invalidFamilyName_iff name⟩
  have hall : name.toList.all isWordChar = true := List.all_eq_true.2 hplain
  have hreads := readsAsIdentifier_iff_of_isWordChar hall
  rw [isWord_iff_of_isWordChar hall, mem_keywords_iff, not_or, not_or] at hreads
  rw [checkFamilyName_eq_ok_iff, ← readsAsIdentifier_iff, hreads, not_raw_of_isWordChar hall]
  simp only [isWordStart, Bool.or_eq_true, beq_iff_eq, newKeywords, List.mem_singleton]
  constructor
  · rintro ⟨⟨hpreamble, hprimitive⟩, -, hgen, hstart, hlone, hstrict, hreserved⟩
    exact ⟨hstart, hlone, hstrict, hreserved, hgen, hpreamble, hprimitive⟩
  · rintro ⟨hstart, hlone, hstrict, hreserved, hgen, hpreamble, hprimitive⟩
    exact ⟨⟨hpreamble, hprimitive⟩, trivial, hgen, hstart, hlone, hstrict, hreserved⟩

/-- A word that goes on after a keyword passes; one that begins with a digit does not. -/
theorem generator_checkFamilyName :
    checkFamilyName "generator" = .ok () ∧
      checkFamilyName "1Color" = .error (.invalidFamilyName "1Color") ∧
      checkFamilyName "fmt" = .error (.reservedName "fmt") := by
  -- as Boolean tests: a quantifier over characters would be decided by going through them all
  have hgenerator : "generator".toList.all isXidContinue = true := by decide +kernel
  have hnumber : "1Color".toList.all isXidContinue = true := by decide +kernel
  have htaken : "fmt".toList.all isXidContinue = true := by decide +kernel
  refine ⟨?_, ?_, ?_⟩
  · have hstart : isXidStart 'g' = true := by decide +kernel
    rw [(checkFamilyName_of_isXidContinue (List.all_eq_true.1 hgenerator)).1]
    exact ⟨⟨'g', rfl, .inr hstart⟩, by decide +kernel⟩
  · have hspec := checkFamilyName_of_isXidContinue (List.all_eq_true.1 hnumber)
    rw [hspec.2.2]
    refine ⟨fun hok => ?_, by decide⟩
    obtain ⟨c, hc, hstart⟩ := (hspec.1.1 hok).1
    obtain rfl : '1' = c := Option.some.inj hc
    exact absurd hstart (by decide +kernel)
  · rw [(checkFamilyName_of_isXidContinue (List.all_eq_true.1 htaken)).2.1]
    decide

end EnumForge.Naming
