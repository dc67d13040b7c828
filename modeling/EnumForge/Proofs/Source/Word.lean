import EnumForge.Proofs.Source.Identifier

namespace EnumForge.Source

open EnumForge.Unicode

/-! String literals need a quote, which stands in no word. -/

theorem ne_of_isWordChar {c : Char} (h : isWordChar c = true) : c ≠ '#' ∧ c ≠ '"' := by
  have hne : c ∉ ['#', '"'] := not_mem_of_isWordChar h (by decide)
  simpa using hne

theorem readHashed_of_isWordChar (kind : StringKind) {s : List Char}
    (h : s.all isWordChar = true) : readHashed kind s = none := by
  cases s with
  | nil => rfl
  | cons c r =>
    rw [List.all_cons, Bool.and_eq_true] at h
    have hne := ne_of_isWordChar h.1
    have hhashes : (c :: r).takeWhile (· = '#') = [] :=
      List.takeWhile_cons_of_neg (by simpa using hne.1)
    simp only [readHashed, hhashes, List.length_nil, List.drop_zero]
    split
    · next t hquote => exact absurd (List.cons.inj hquote).1 hne.2
    · rfl

theorem readStringLiteral_of_isWordChar {s : List Char} (h : s.all isWordChar = true) :
    readStringLiteral s = none := by
  have hquote : isWordChar '"' = false := isWordChar_eq_of_ascii (by decide)
  unfold readStringLiteral
  split
  · simp [hquote] at h
  · rw [List.all_cons, Bool.and_eq_true] at h
    simp [readHashed_of_isWordChar _ h.2]
  · simp [hquote] at h
  · simp only [List.all_cons, Bool.and_eq_true] at h
    simp [readHashed_of_isWordChar _ h.2.2]
  · simp [hquote] at h
  · simp only [List.all_cons, Bool.and_eq_true] at h
    simp [readHashed_of_isWordChar _ h.2.2]
  · rfl

/-! Numbers begin with a digit, and no word does. -/

theorem isDecimalDigit_of_isWordStart {c : Char} (h : isWordStart c = true) :
    isDecimalDigit c = false := by
  rw [Bool.eq_false_iff]
  intro hdigit
  have hrange : 48 ≤ c.toNat ∧ c.toNat ≤ 57 := by
    simpa [isDecimalDigit, Char.le_def, UInt32.le_iff_toNat_le] using hdigit
  rw [isWordStart_eq_of_ascii (by omega), Bool.or_eq_true, beq_iff_eq] at h
  rcases h with rfl | h
  · exact absurd hdigit (by decide)
  · rw [isAlpha_iff] at h
    omega

theorem realLength_of_isWordStart {c : Char} (h : isWordStart c = true) (r : List Char) :
    realLength (c :: r) = none := by
  have hdigit : ¬ (c :: r).head?.any isDecimalDigit = true := by
    simp [isDecimalDigit_of_isWordStart h]
  have hguard : (guard ((c :: r).head?.any isDecimalDigit = true) : Option Unit) = none :=
    if_neg hdigit
  rw [realLength, hguard]
  rfl

theorem digitsLength_of_isWordStart {c : Char} (h : isWordStart c = true) (r : List Char) :
    digitsLength 10 (c :: r) = none := by
  have hdigit := isDecimalDigit_of_isWordStart h
  by_cases hgap : c = '_'
  · simp [digitsLength, isDecimalOrGap, hgap]
  · simp [digitsLength, isDecimalOrGap, hgap, hdigit]

theorem wholeLength_of_isWordStart {c : Char} (h : isWordStart c = true) (r : List Char) :
    wholeLength (c :: r) = none := by
  have hzero : isWordStart '0' = false := isWordStart_eq_of_ascii (by decide)
  unfold wholeLength
  split
  · next hs => exact absurd ((List.cons.inj hs).1 ▸ h) (Bool.eq_false_iff.1 hzero)
  · next hs => exact absurd ((List.cons.inj hs).1 ▸ h) (Bool.eq_false_iff.1 hzero)
  · next hs => exact absurd ((List.cons.inj hs).1 ▸ h) (Bool.eq_false_iff.1 hzero)
  · simp [digitsLength_of_isWordStart h]

theorem literalLength_of_isWord {s : List Char} (h : isWord s = true) :
    literalLength s = none := by
  have hall := all_isWordChar_of_isWord h
  have hquote : isWordChar '\'' = false := isWordChar_eq_of_ascii (by decide)
  cases s with
  | nil => simp [isWord] at h
  | cons c r =>
    have hc : isWordStart c = true := (Bool.and_eq_true _ _ ▸ h).1
    unfold literalLength
    rw [readStringLiteral_of_isWordChar hall]
    simp only [realLength_of_isWordStart hc, wholeLength_of_isWordStart hc]
    split
    · next hs => simp [hs, hquote] at hall
    · next hs => simp [hs, hquote] at hall
    · rfl

/-! What is left for such a text is the word that it is. -/

theorem startsMark_of_isWordChar {c : Char} (h : isWordChar c = true) (r : List Char) :
    startsMark (c :: r) = false := by
  have hmark : c ∉ marks := not_mem_of_isWordChar h (by decide)
  unfold startsMark
  split
  · rfl
  · rfl
  · next d t _ _ hs =>
    obtain ⟨rfl, -⟩ := List.cons.inj hs
    simpa using hmark
  · rfl

theorem not_literalPrefix_of_isWordChar {s : List Char} (h : s.all isWordChar = true) :
    literalPrefixes.any (·.isPrefixOf s) = false := by
  have hbroken : literalPrefixes.all (·.any isPunctuation) = true := by decide
  rw [List.any_eq_false]
  intro p hp hprefix
  obtain ⟨c, hc, hmark⟩ := List.any_eq_true.1 (List.all_eq_true.1 hbroken p hp)
  have hword := List.all_eq_true.1 h c ((List.isPrefixOf_iff_prefix.1 hprefix).subset hc)
  have hone : [c].all isPunctuation = true := by simp [hmark]
  exact not_mem_of_isWordChar hword hone (List.mem_singleton.2 rfl)

theorem leaf?_of_isWord {s : List Char} (h : isWord s = true) :
    leaf? s = some (.word (String.ofList s), []) := by
  have hall := all_isWordChar_of_isWord h
  cases s with
  | nil => simp [isWord] at h
  | cons c r =>
    have hc : isWordChar c = true := (Bool.and_eq_true _ _ ▸ hall).1
    simp [leaf?, literalLength_of_isWord h, startsMark_of_isWordChar hc,
      not_literalPrefix_of_isWordChar hall, identifier?_of_isWord h]

theorem tokens?_of_isWord {s : List Char} (h : isWord s = true) :
    tokens? s = some [.word (String.ofList s)] := by
  cases s with
  | nil => simp [isWord] at h
  | cons c r =>
    have hc : isWordChar c = true := (Bool.and_eq_true _ _ ▸ all_isWordChar_of_isWord h).1
    rw [tokens?, dropByteOrderMark_of_isWordChar hc, tokensFrom_of_isWordChar hc,
      leaf?_of_isWord h]
    rfl

theorem isWordStart_of_identifier? {c : Char} {r rest : List Char} {w : String}
    (h : identifier? (c :: r) = some (w, rest)) : isWordStart c = true := by
  unfold identifier? at h
  split at h
  · next t hs =>
    obtain ⟨rfl, -⟩ := List.cons.inj hs
    exact isWordStart_eq_of_ascii (by decide)
  · by_contra hc
    simp [takeWord?, hc] at h

/-- Among the texts made of the characters of words, those that are read as one word are the words,
and they are read as they stand. -/
theorem tokens?_eq_word_iff {s : List Char} (hs : s.all isWordChar = true) (w : String) :
    tokens? s = some [.word w] ↔ isWord s = true ∧ w = String.ofList s := by
  constructor
  · intro h
    cases s with
    | nil => simp [tokens?, dropByteOrderMark, tokensFrom] at h
    | cons c r =>
      rw [List.all_cons, Bool.and_eq_true] at hs
      obtain ⟨rest, hword⟩ := identifier?_of_tokens? hs.1 h
      have hs : isWord (c :: r) = true := by
        rw [isWord, isWordStart_of_identifier? hword, hs.2]
        rfl
      exact ⟨hs, eq_of_tokens?_of_isWord hs h⟩
  · rintro ⟨hword, rfl⟩
    exact tokens?_of_isWord hword

/-! Raw words. The mark after the `r` opens no literal, for no quote follows it. -/

theorem readStringLiteral_of_raw {word : List Char} (h : isWord word = true) :
    readStringLiteral ('r' :: '#' :: word) = none := by
  cases word with
  | nil => simp [isWord] at h
  | cons c r =>
    have hall := all_isWordChar_of_isWord h
    rw [List.all_cons, Bool.and_eq_true] at hall
    have hne := ne_of_isWordChar hall.1
    have hhashes : ('#' :: c :: r).takeWhile (· = '#') = ['#'] := by
      simp [hne.1]
    simp only [readStringLiteral, readHashed, hhashes, List.length_singleton, List.drop_one,
      List.tail_cons]
    split
    · next t hquote => exact absurd (List.cons.inj hquote).1 hne.2
    · rfl

theorem not_literalPrefix_of_raw {word : List Char} (h : isWord word = true) :
    literalPrefixes.any (·.isPrefixOf ('r' :: '#' :: word)) = false := by
  cases word with
  | nil => simp [isWord] at h
  | cons c r =>
    have hall := all_isWordChar_of_isWord h
    rw [List.all_cons, Bool.and_eq_true] at hall
    have hne := ne_of_isWordChar hall.1
    simp [literalPrefixes, List.isPrefixOf, Ne.symm hne.1, Ne.symm hne.2]

/-- A raw word is read as it stands. -/
theorem tokens?_of_raw {word : List Char} (h : isWord word = true)
    (hraw : neverRaw.contains (String.ofList word) = false) :
    tokens? ('r' :: '#' :: word) = some [.word (String.ofList ('r' :: '#' :: word))] := by
  have hstart : isWordStart 'r' = true := isWordStart_eq_of_ascii (by decide)
  have hletter := isWordChar_of_isWordStart hstart
  have hliteral : literalLength ('r' :: '#' :: word) = none := by
    simp only [literalLength, readStringLiteral_of_raw h, realLength_of_isWordStart hstart,
      wholeLength_of_isWordStart hstart]
    rfl
  have hword : identifier? ('r' :: '#' :: word) =
      some (String.ofList ('r' :: '#' :: word), []) := by
    simp only [identifier?, takeWord?_of_isWord h, Option.bind_eq_bind, Option.bind_some, hraw]
    rfl
  have hleaf : leaf? ('r' :: '#' :: word) =
      some (.word (String.ofList ('r' :: '#' :: word)), []) := by
    simp [leaf?, hliteral, startsMark_of_isWordChar hletter, not_literalPrefix_of_raw h, hword]
  rw [tokens?, dropByteOrderMark_of_isWordChar hletter, tokensFrom_of_isWordChar hletter, hleaf]
  rfl

/-- What can be written out as an identifier is read as that identifier. -/
theorem tokens?_of_isIdentifier {name : String} (h : isIdentifier name = true) :
    tokens? name.toList = some [.word name] := by
  unfold isIdentifier at h
  split at h
  · next word hname =>
    rw [Bool.and_eq_true, Bool.not_eq_true'] at h
    rw [hname, tokens?_of_raw h.1 h.2, ← hname, String.ofList_toList]
  · rw [tokens?_of_isWord h, String.ofList_toList]

end EnumForge.Source
