import EnumForge.Proofs.Source.Literal
import EnumForge.Proofs.Unicode.Control
import Mathlib.Data.List.TakeWhile

namespace EnumForge.Source

open EnumForge.Text EnumForge.Unicode

theorem isAlphanum_of_hexDigit? {c : Char} {d : Nat} (h : hexDigit? c = some d) :
    c.isAlphanum = true := by
  have hletters : c.isAlphanum = true ↔ c.isAlpha = true ∨ c.isDigit = true := by
    change (c.isAlpha || c.isDigit) = true ↔ _
    rw [Bool.or_eq_true]
  rw [hletters, isAlpha_iff, isDigit_iff]
  unfold hexDigit? at h
  simp only [Char.le_def, UInt32.le_iff_toNat_le] at h
  have htoNat : c.val.toNat = c.toNat := rfl
  have hbounds : '0'.val.toNat = 0x30 ∧ '9'.val.toNat = 0x39 ∧ 'a'.val.toNat = 0x61 ∧
      'f'.val.toNat = 0x66 ∧ 'A'.val.toNat = 0x41 ∧ 'F'.val.toNat = 0x46 := by decide
  split_ifs at h
  · omega
  · omega
  · omega

theorem isControl_of_mem_escape {c d : Char} (h : d ∈ escape c) : isControl d = false := by
  unfold escape at h
  split_ifs at h with h0 ht hr hn hb hq hplain
  · exact isControl_of_all (by decide) h
  · exact isControl_of_all (by decide) h
  · exact isControl_of_all (by decide) h
  · exact isControl_of_all (by decide) h
  · exact isControl_of_all (by decide) h
  · exact isControl_of_all (by decide) h
  · obtain rfl := List.mem_singleton.1 h
    simp only [standsAlone, Bool.and_eq_true] at hplain
    exact isControl_of_isPrintable hplain.1.1
  · simp only [codePointEscape, List.mem_append] at h
    rcases h with (hopening | hdigit) | hclosing
    · exact isControl_of_all (by decide) hopening
    · obtain ⟨n, hn⟩ := hexDigit?_of_mem (hexValue?_hexLower c.toNat) hdigit
      exact isControl_of_isAlphanum (isAlphanum_of_hexDigit? hn)
    · exact isControl_of_all (by decide) hclosing

theorem isControl_of_mem_literalBody {s : List Char} {d : Char} (h : d ∈ literalBody s) :
    isControl d = false := by
  induction s with
  | nil => simp [literalBody] at h
  | cons c s ih =>
    rw [literalBody, List.mem_append] at h
    rcases h with hfirst | hrest
    · split_ifs at hfirst with hzero
      · exact isControl_of_all (by decide) hfirst
      · exact isControl_of_mem_escape hfirst
    · exact ih hrest

/-- No character of a string literal ends the line or steers what shows it. -/
theorem isControl_of_mem_stringLiteral {s : List Char} {d : Char}
    (h : d ∈ (stringLiteral s).toList) : isControl d = false := by
  rw [stringLiteral, String.toList_ofList, List.cons_append, List.mem_cons, List.mem_append,
    List.mem_singleton] at h
  have hquote : isControl '"' = false := by decide
  rcases h with rfl | hbody | rfl
  · exact hquote
  · exact isControl_of_mem_literalBody hbody
  · exact hquote

theorem isControl_of_mem_number {v : UInt64} {d : Char}
    (h : d ∈ (Emit.Token.number v).render.toList) : isControl d = false := by
  rw [Emit.Token.render, String.toList_ofList, List.mem_cons, List.mem_cons] at h
  rcases h with rfl | rfl | hdigit
  · decide
  · decide
  · obtain ⟨n, hn⟩ := hexDigit?_of_mem (hexValue?_hexUpper v.toNat) hdigit
    exact isControl_of_isAlphanum (isAlphanum_of_hexDigit? hn)

/-- Whether a quote stands in a text that no backslash escapes; a backslash takes the next character
with it. -/
def hasBareQuote : List Char → Bool
  | [] => false
  | [c] => c = '"'
  | c :: d :: r => if c = '\\' then hasBareQuote r else c = '"' || hasBareQuote (d :: r)

theorem hasBareQuote_escaped (c : Char) (t : List Char) :
    hasBareQuote ('\\' :: c :: t) = hasBareQuote t := by
  simp [hasBareQuote]

theorem hasBareQuote_cons {c : Char} (hb : c ≠ '\\') (hq : c ≠ '"') (t : List Char) :
    hasBareQuote (c :: t) = hasBareQuote t := by
  cases t with
  | nil => simp [hasBareQuote, hq]
  | cons d t => simp [hasBareQuote, hb, hq]

theorem hasBareQuote_append {p : List Char} (h : ∀ c ∈ p, c ≠ '\\' ∧ c ≠ '"') (t : List Char) :
    hasBareQuote (p ++ t) = hasBareQuote t := by
  induction p with
  | nil => rfl
  | cons c p ih =>
    obtain ⟨hc, hp⟩ := List.forall_mem_cons.1 h
    rw [List.cons_append, hasBareQuote_cons hc.1 hc.2, ih hp]

theorem hasBareQuote_escape (c : Char) (t : List Char) :
    hasBareQuote (escape c ++ t) = hasBareQuote t := by
  unfold escape
  split_ifs with h0 ht hr hn hb hq hplain
  · exact hasBareQuote_escaped _ t
  · exact hasBareQuote_escaped _ t
  · exact hasBareQuote_escaped _ t
  · exact hasBareQuote_escaped _ t
  · exact hasBareQuote_escaped _ t
  · exact hasBareQuote_escaped _ t
  · exact hasBareQuote_cons hb hq t
  · have hform : codePointEscape c ++ t =
        '\\' :: 'u' :: (('\x7b' :: hexLower c.toNat ++ ['\x7d']) ++ t) := by
      simp [codePointEscape]
    rw [hform, hasBareQuote_escaped]
    apply hasBareQuote_append
    intro d hd
    rw [List.cons_append, List.mem_cons, List.mem_append, List.mem_singleton] at hd
    rcases hd with rfl | hdigit | rfl
    · decide
    · obtain ⟨n, hn⟩ := hexDigit?_of_mem (hexValue?_hexLower c.toNat) hdigit
      constructor
      · rintro rfl
        simp [hexDigit?] at hn
      · rintro rfl
        simp [hexDigit?] at hn
    · decide

/-- Between the quotes of a literal every quote is escaped. -/
theorem hasBareQuote_literalBody (s : List Char) : hasBareQuote (literalBody s) = false := by
  induction s with
  | nil => rfl
  | cons c s ih =>
    rw [literalBody]
    split_ifs with hzero
    · have hzeros : ∀ d ∈ ['0', '0'], d ≠ '\\' ∧ d ≠ '"' := by
        simp
      have hform : ['\\', 'x', '0', '0'] ++ literalBody s =
          '\\' :: 'x' :: (['0', '0'] ++ literalBody s) := rfl
      rw [hform, hasBareQuote_escaped, hasBareQuote_append hzeros, ih]
    · rw [hasBareQuote_escape, ih]

/-! Literals read as tokens. -/

theorem readStringLiteral_stringLiteral (s : List Char) :
    readStringLiteral (stringLiteral s).toList = some ⟨.text, s, (stringLiteral s).length⟩ := by
  have hbody := readCookedFrom_literalBody s []
  have hform : (stringLiteral s).toList = '"' :: (literalBody s ++ ['"']) := by
    simp [stringLiteral]
  have hlength : (stringLiteral s).length = (literalBody s).length + 1 + 1 := by
    rw [← String.length_toList, hform]
    simp
  rw [hform, hlength]
  simp only [readStringLiteral, hbody]
  rfl

/-- A written literal is one literal, which denotes the text that it was written for. -/
theorem stringLiteral_read (s : List Char) :
    literalLength (stringLiteral s).toList = some (stringLiteral s).length ∧
      stringValue? (stringLiteral s) = some s := by
  have hend : (stringLiteral s).toList.drop (stringLiteral s).length = [] := by
    rw [← String.length_toList, List.drop_length]
  constructor
  · unfold literalLength
    rw [readStringLiteral_stringLiteral]
    simp only [hend]
    rfl
  · unfold stringValue?
    rw [readStringLiteral_stringLiteral]
    simp only [hend]
    exact if_pos rfl

/-! Numbers read as tokens. -/

/-- No decimal digit is too large for base sixteen. -/
theorem not_large_of_isDecimalDigit (c : Char) :
    (isDecimalDigit c && decide (16 ≤ c.toNat - '0'.toNat)) = false := by
  rw [Bool.eq_false_iff, Ne, Bool.and_eq_true, decide_eq_true_eq]
  rintro ⟨hdecimal, hlarge⟩
  have hrange : 0x30 ≤ c.toNat ∧ c.toNat ≤ 0x39 := by
    simpa [isDecimalDigit, Char.le_def, UInt32.le_iff_toNat_le] using hdecimal
  have hzero : '0'.toNat = 0x30 := rfl
  omega

/-- Digits up to the end of the text are all of a number in base sixteen. -/
theorem digitsLength_of_hexValue? {digits : List Char} {n : Nat} (hne : digits ≠ [])
    (h : hexValue? digits = some n) : digitsLength 16 digits = some digits.length := by
  have hhex : ∀ c ∈ digits, ∃ d, hexDigit? c = some d := fun c hc => hexDigit?_of_mem h hc
  have htake : digits.takeWhile
      (fun c => isDecimalOrGap c || (hexDigit? c).isSome) = digits := by
    rw [List.takeWhile_eq_self_iff]
    intro c hc
    obtain ⟨d, hd⟩ := hhex c hc
    simp [hd]
  have hgaps : digits.all (· = '_') = false := by
    obtain ⟨c, rest, rfl⟩ := List.exists_cons_of_ne_nil hne
    obtain ⟨d, hd⟩ := hhex c List.mem_cons_self
    have hgap : c ≠ '_' := by
      rintro rfl
      simp [hexDigit?] at hd
    simp [hgap]
  have hlarge : digits.any
      (fun c => isDecimalDigit c && decide (16 ≤ c.toNat - '0'.toNat)) = false := by
    rw [List.any_eq_false]
    intro c _
    exact Bool.eq_false_iff.1 (not_large_of_isDecimalDigit c)
  simp only [digitsLength, decide_true, Bool.true_and, htake, hgaps, hlarge]
  simp

/-- A written number is one literal. -/
theorem literalLength_number (v : UInt64) :
    literalLength (Emit.Token.number v).render.toList =
      some (Emit.Token.number v).render.length := by
  have hne : hexUpper v.toNat ≠ [] := by
    simp [hexUpper, hexLower, Nat.toDigits_ne_nil]
  have hdigits := digitsLength_of_hexValue? hne (hexValue?_hexUpper v.toNat)
  have hreal : realLength ('0' :: 'x' :: hexUpper v.toNat) = none := rfl
  have hend : ('0' :: 'x' :: hexUpper v.toNat).drop ((hexUpper v.toNat).length + 2) = [] := by
    simp
  have hnone : suffixLength [] = 0 := rfl
  have hwhole : wholeLength ('0' :: 'x' :: hexUpper v.toNat) =
      some ((hexUpper v.toNat).length + 2) := by
    simp only [wholeLength, hdigits, Option.map_some, Option.bind_eq_bind, Option.bind_some,
      endNumber, hend, hnone, Nat.add_zero]
    rfl
  have hform : (Emit.Token.number v).render.toList = '0' :: 'x' :: hexUpper v.toNat := by
    rw [Emit.Token.render, String.toList_ofList]
  rw [← String.length_toList, hform]
  simp only [literalLength, readStringLiteral, hreal, hwhole]
  rfl

end EnumForge.Source
