import EnumForge.Naming
import EnumForge.Proofs.Unicode.Identifier
import Mathlib.Data.List.TakeWhile

namespace EnumForge.Source

open EnumForge.Unicode

/-! What can begin a word, and what can stand in one. -/

theorem isWordStart_eq_of_ascii {c : Char} (h : c.toNat < 0x80) :
    isWordStart c = (c == '_' || c.isAlpha) := by
  rw [isWordStart, isXidStart_eq_of_ascii h]

theorem isWordChar_eq_of_ascii {c : Char} (h : c.toNat < 0x80) :
    isWordChar c = (c.isAlphanum || c == '_') :=
  isXidContinue_eq_of_ascii h

theorem isWordChar_number_sign : isWordChar '#' = false := isWordChar_eq_of_ascii (by decide)

theorem isWordChar_underscore : isWordChar '_' = true := isWordChar_eq_of_ascii (by decide)

theorem isWordChar_of_isWordStart {c : Char} (h : isWordStart c = true) : isWordChar c = true := by
  rw [isWordStart, Bool.or_eq_true, beq_iff_eq] at h
  rcases h with rfl | h
  · exact isWordChar_underscore
  · exact isXidContinue_of_isXidStart c h

theorem all_isWordChar_of_isWord {s : List Char} (h : isWord s = true) :
    s.all isWordChar = true := by
  cases s with
  | nil => rfl
  | cons c cs =>
    rw [isWord, Bool.and_eq_true] at h
    rw [List.all_cons, isWordChar_of_isWordStart h.1, h.2]
    rfl

/-- An ASCII character that may begin what the lexer looks for first, and stands in no word. -/
def isPunctuation (c : Char) : Bool := c.toNat < 0x80 && !(c.isAlphanum || c == '_')

theorem not_mem_of_isWordChar {c : Char} (h : isWordChar c = true) {others : List Char}
    (hothers : others.all isPunctuation = true) : c ∉ others := by
  intro hc
  have hother := List.all_eq_true.1 hothers c hc
  rw [isPunctuation, Bool.and_eq_true, decide_eq_true_eq, Bool.not_eq_true'] at hother
  rw [isWordChar_eq_of_ascii hother.1, hother.2] at h
  exact absurd h (by decide)

/-- Marks that are no part of a word either: those of the direction of writing and of the order of
bytes. -/
theorem not_mark_of_isWordChar {c : Char} (h : isWordChar c = true) :
    c ∉ ['\u200e', '\u200f', '\ufeff'] := by
  -- as a Boolean test: the quantifier over characters would be decided by going through them all
  have hnone : ['\u200e', '\u200f', '\ufeff'].all (!isWordChar ·) = true := by decide +kernel
  intro hc
  have hfalse := List.all_eq_true.1 hnone c hc
  rw [h] at hfalse
  exact absurd hfalse (by decide)

theorem isSpace_of_isWordChar {c : Char} (h : isWordChar c = true) : isSpace c = false := by
  have hmark := not_mark_of_isWordChar h
  simp only [List.mem_cons, List.not_mem_nil, or_false, not_or] at hmark
  simp [isSpace, isWhiteSpace_of_isXidContinue h, hmark.1, hmark.2.1]

theorem isWord_ne_raw {word : List Char} (h : isWord word = true) (r : List Char) :
    word ≠ 'r' :: '#' :: r := by
  rintro rfl
  simp [isWord, isWordChar_number_sign] at h

theorem isWord_append {a b : List Char} (ha : isWord a = true) (hb : b.all isWordChar = true) :
    isWord (a ++ b) = true := by
  cases a with
  | nil => simp [isWord] at ha
  | cons c cs =>
    rw [isWord, Bool.and_eq_true] at ha
    rw [List.cons_append, isWord, List.all_append, ha.1, ha.2, hb]
    rfl

theorem takeWord?_eq_some {s word rest : List Char} (h : takeWord? s = some (word, rest)) :
    isWord word = true ∧ s = word ++ rest := by
  cases s with
  | nil => simp [takeWord?] at h
  | cons c cs =>
    by_cases hc : isWordStart c = true
    · simp only [takeWord?, hc, if_true, Option.some.injEq, Prod.mk.injEq] at h
      obtain ⟨rfl, rfl⟩ := h
      refine ⟨?_, ?_⟩
      · rw [isWord, hc, List.all_takeWhile]
        rfl
      · rw [List.cons_append, List.takeWhile_append_dropWhile]
    · simp [takeWord?, hc] at h

theorem takeWord?_of_isWord {s : List Char} (h : isWord s = true) :
    takeWord? s = some (s, []) := by
  cases s with
  | nil => simp [isWord] at h
  | cons c cs =>
    rw [isWord, Bool.and_eq_true, List.all_eq_true] at h
    have htake : cs.takeWhile isWordChar = cs := List.takeWhile_eq_self_iff.2 h.2
    have hdrop : cs.dropWhile isWordChar = [] := List.dropWhile_eq_nil_iff.2 h.2
    simp [takeWord?, h.1, htake, hdrop]

theorem isIdentifier_raw {word : List Char} (h : isWord word = true)
    (hraw : neverRaw.contains (String.ofList word) = false) :
    isIdentifier (String.ofList ('r' :: '#' :: word)) = true := by
  simp only [isIdentifier, String.toList_ofList, h, hraw, Bool.not_false, Bool.and_self]

theorem isIdentifier_of_isWord {name : String} (h : isWord name.toList = true) :
    isIdentifier name = true := by
  unfold isIdentifier
  split
  · next word hname => exact absurd hname (isWord_ne_raw h word)
  · exact h

/-- An identifier is a word, but for the raw ones. -/
theorem isWord_of_isIdentifier {name : String} (h : isIdentifier name = true)
    (hraw : ['r', '#'].isPrefixOf name.toList = false) : isWord name.toList = true := by
  unfold isIdentifier at h
  split at h
  · next word hname =>
    rw [hname] at hraw
    simp at hraw
  · exact h

/-- Of the keywords only the lone underscore has one, so a name that goes on after an underscore is
none. -/
theorem not_keyword_of_underscore {word : List Char} (h : word ≠ []) (tail : List Char) :
    String.ofList (word ++ '_' :: tail) ∉ keywords := by
  have hnone : keywords.all (fun w => w == "_" || !w.toList.contains '_') = true := by decide
  intro hmem
  have hlone := List.all_eq_true.1 hnone _ hmem
  rw [String.toList_ofList, Bool.or_eq_true, beq_iff_eq, ← String.toList_inj,
    String.toList_ofList] at hlone
  rcases hlone with hlone | hfree
  · have hlength := congrArg List.length hlone
    rw [List.length_append, List.length_cons] at hlength
    have hpos : 0 < word.length := List.length_pos_iff.2 h
    have hone : "_".toList.length = 1 := rfl
    omega
  · simp at hfree

theorem ne_nil_of_isWord {word : List Char} (h : isWord word = true) : word ≠ [] := by
  rintro rfl
  simp [isWord] at h

/-- An identifier can be continued after an underscore. -/
theorem isIdentifier_append {name : String} (h : isIdentifier name = true) {tail : List Char}
    (htail : tail.all isWordChar = true) :
    isIdentifier (name ++ "_" ++ String.ofList tail) = true := by
  have hend : ('_' :: tail).all isWordChar = true := by
    rw [List.all_cons, isWordChar_underscore, htail]
    rfl
  have htext : (name ++ "_" ++ String.ofList tail).toList = name.toList ++ '_' :: tail := by
    simp
  unfold isIdentifier at h
  split at h
  · next word hname =>
    rw [Bool.and_eq_true] at h
    have hnever : neverRaw.contains (String.ofList (word ++ '_' :: tail)) = false := by
      have hall : neverRaw ⊆ keywords := by decide
      rw [Bool.eq_false_iff, Ne, List.contains_iff_mem]
      exact fun hmem => not_keyword_of_underscore (ne_nil_of_isWord h.1) tail (hall hmem)
    have hraw := isIdentifier_raw (isWord_append h.1 hend) hnever
    rwa [← List.cons_append, ← List.cons_append, ← hname, ← htext, String.ofList_toList] at hraw
  · apply isIdentifier_of_isWord
    rw [htext]
    exact isWord_append h hend

theorem identifier?_of_isWord {s : List Char} (h : isWord s = true) :
    identifier? s = some (String.ofList s, []) := by
  unfold identifier?
  split
  · next r => exact absurd rfl (isWord_ne_raw h r)
  · rw [takeWord?_of_isWord h]
    rfl

theorem isIdentifier_of_identifier? {s rest : List Char} {w : String}
    (h : identifier? s = some (w, rest)) : isIdentifier w = true := by
  unfold identifier? at h
  split at h
  · next r =>
    simp only [Option.bind_eq_bind, Option.bind_eq_some_iff] at h
    obtain ⟨⟨word, tail⟩, htake, h⟩ := h
    split at h
    · simp at h
    · next hraw =>
      simp only [Option.some.injEq, Prod.mk.injEq] at h
      obtain ⟨rfl, rfl⟩ := h
      exact isIdentifier_raw (takeWord?_eq_some htake).1 (Bool.eq_false_iff.2 hraw)
  · rw [Option.map_eq_some_iff] at h
    obtain ⟨⟨word, tail⟩, htake, h⟩ := h
    simp only [Prod.mk.injEq] at h
    obtain ⟨rfl, rfl⟩ := h
    apply isIdentifier_of_isWord
    rw [String.toList_ofList]
    exact (takeWord?_eq_some htake).1

/-! Words among the tokens of a text. -/

theorem identifier?_of_leaf? {s rest : List Char} {w : String}
    (h : leaf? s = some (.word w, rest)) : identifier? s = some (w, rest) := by
  unfold leaf? at h
  split at h
  · simp at h
  · split at h
    · simp at h
    · split at h
      · split at h
        · split at h
          · simp at h
          · simp at h
        · simp at h
      · split at h
        · simp at h
        · rw [Option.map_eq_some_iff] at h
          obtain ⟨⟨v, tail⟩, hword, h⟩ := h
          simp only [Prod.mk.injEq, Token.word.injEq] at h
          obtain ⟨rfl, rfl⟩ := h
          exact hword

theorem isIdentifier_of_mem_docTokens {inner : Bool} {text : List Char} {w : String}
    (h : Token.word w ∈ docTokens inner text) : isIdentifier w = true := by
  have hw : w = "doc" := by
    cases inner with
    | false => simpa [docTokens] using h
    | true => simpa [docTokens] using h
  rw [hw]
  decide +kernel

/-- Each word that the lexer finds can be written out. -/
theorem isIdentifier_of_mem_tokensFrom {fuel : Nat} {s : List Char} {ts : List Token} {w : String}
    (h : tokensFrom fuel s = some ts) (hw : Token.word w ∈ ts) : isIdentifier w = true := by
  fun_induction tokensFrom fuel s generalizing ts with
  | case1 => simp at h
  | case2 =>
    obtain rfl := Option.some.inj h
    simp at hw
  | case3 fuel c r rest _ ih => exact ih h hw
  | case4 fuel c r _ _ ih => exact ih h hw
  | case5 fuel c r _ _ inner text rest _ _ ih =>
    obtain ⟨us, hus, rfl⟩ := Option.map_eq_some_iff.1 h
    rcases List.mem_append.1 hw with hw | hw
    · exact isIdentifier_of_mem_docTokens hw
    · exact ih hus hw
  | case6 => simp at h
  | case7 fuel c r _ _ _ d _ ih =>
    obtain ⟨us, hus, rfl⟩ := Option.map_eq_some_iff.1 h
    exact ih hus (by simpa using hw)
  | case8 fuel c r _ _ _ d _ _ ih =>
    obtain ⟨us, hus, rfl⟩ := Option.map_eq_some_iff.1 h
    exact ih hus (by simpa using hw)
  | case9 fuel c r _ _ _ _ _ ih =>
    simp only [Option.bind_eq_bind, Option.bind_eq_some_iff] at h
    obtain ⟨⟨t, rest⟩, hleaf, h⟩ := h
    obtain ⟨us, hus, rfl⟩ := Option.map_eq_some_iff.1 h
    rcases List.mem_cons.1 hw with rfl | hw
    · exact isIdentifier_of_identifier? (identifier?_of_leaf? hleaf)
    · exact ih rest hus hw

theorem plainComment?_of_ne {c : Char} (h : c ≠ '/') (r : List Char) :
    plainComment? (c :: r) = none := by
  unfold plainComment?
  split <;> simp_all

theorem docComment?_of_ne {c : Char} (h : c ≠ '/') (r : List Char) :
    docComment? (c :: r) = none := by
  unfold docComment?
  split <;> simp_all

theorem dropByteOrderMark_of_isWordChar {c : Char} (h : isWordChar c = true) (r : List Char) :
    dropByteOrderMark (c :: r) = c :: r := by
  have hmark := not_mark_of_isWordChar h
  unfold dropByteOrderMark
  split <;> simp_all

/-- The lexer looks for a leaf at once where a character of a word stands. -/
theorem tokensFrom_of_isWordChar {c : Char} (h : isWordChar c = true) (fuel : Nat)
    (r : List Char) :
    tokensFrom (fuel + 1) (c :: r) =
      (leaf? (c :: r)).bind fun p => (tokensFrom fuel p.2).map (p.1 :: ·) := by
  have hne : c ∉ ['/', '(', ')', '[', ']', '\x7b', '\x7d'] :=
    not_mem_of_isWordChar h (by decide)
  simp only [List.mem_cons, List.not_mem_nil, or_false, not_or] at hne
  obtain ⟨hslash, hp, hq, hb, hd, hl, hm⟩ := hne
  have hopening : Delimiter.ofOpening? c = none := by
    simp [Delimiter.ofOpening?, Delimiter.opening, Ne.symm hp, Ne.symm hb, Ne.symm hl]
  have hclosing : Delimiter.ofClosing? c = none := by
    simp [Delimiter.ofClosing?, Delimiter.closing, Ne.symm hq, Ne.symm hd, Ne.symm hm]
  rw [tokensFrom, plainComment?_of_ne hslash, docComment?_of_ne hslash, hopening, hclosing,
    isSpace_of_isWordChar h]
  rfl

/-- A word that is all there is begins with the text. -/
theorem identifier?_of_tokens? {c : Char} {r : List Char} {w : String} (hc : isWordChar c = true)
    (h : tokens? (c :: r) = some [.word w]) : ∃ rest, identifier? (c :: r) = some (w, rest) := by
  rw [tokens?, dropByteOrderMark_of_isWordChar hc, tokensFrom_of_isWordChar hc,
    Option.bind_eq_some_iff] at h
  obtain ⟨⟨t, rest⟩, hleaf, h⟩ := h
  obtain ⟨us, -, hts⟩ := Option.map_eq_some_iff.1 h
  obtain ⟨rfl, rfl⟩ := List.cons.inj hts
  exact ⟨rest, identifier?_of_leaf? hleaf⟩

/-- A text that is a word as a whole can be read as no other word. -/
theorem eq_of_tokens?_of_isWord {s : List Char} {w : String} (hs : isWord s = true)
    (h : tokens? s = some [.word w]) : w = String.ofList s := by
  cases s with
  | nil => simp [isWord] at hs
  | cons c r =>
    have hc : isWordStart c = true := (Bool.and_eq_true _ _ ▸ hs).1
    obtain ⟨rest, hword⟩ := identifier?_of_tokens? (isWordChar_of_isWordStart hc) h
    rw [identifier?_of_isWord hs, Option.some.injEq, Prod.mk.injEq] at hword
    exact hword.1.symm

end EnumForge.Source
