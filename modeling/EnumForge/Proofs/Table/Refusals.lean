import EnumForge.Proofs.Decimal.Rounding
import EnumForge.Proofs.Table.Numbers

namespace EnumForge

open Json Text Decimal

namespace Json.Literal

def minusZero : Literal := ⟨true, ['0'], none, none⟩

/-- What a literal without fraction and power of ten denotes. -/
def wholeValue (l : Literal) : Int :=
  if l.negative then -decimalValue l.whole else decimalValue l.whole

variable {t : List Char} {l : Literal}

theorem not_fits_iff (hl : l.isInteger = true) :
    ¬ l.Fits ↔ (l.negative = false → 2 ^ 64 ≤ decimalValue l.whole) := by
  constructor
  · intro h hsign
    by_contra hlt
    exact h ⟨_, Nat.not_le.1 hlt, hsign, hl, rfl⟩
  · rintro h ⟨n, hlt, hsign, -, rfl⟩
    exact absurd (h hsign) (Nat.not_le.2 hlt)

theorem eq_minusZero_iff (h : NumberText t l) (hl : l.isInteger = true) :
    l = minusZero ↔ l.negative = true ∧ decimalValue l.whole = 0 := by
  constructor
  · rintro rfl
    exact ⟨rfl, rfl⟩
  · rintro ⟨hsign, hvalue⟩
    obtain ⟨hfraction, hpower⟩ := l.isInteger_iff.1 hl
    cases h with
    | intro negative hwhole =>
      dsimp only at hsign hvalue hfraction hpower
      rw [hsign, hwhole.eq_zero_of_value hvalue, hfraction, hpower, minusZero]

/-- A whole number that does not fit lies outside, unless it is minus zero. -/
theorem wholeValue_outside (h : NumberText t l) (hl : l.isInteger = true) (hfits : ¬ l.Fits)
    (hzero : l ≠ minusZero) : ¬ (0 ≤ l.wholeValue ∧ l.wholeValue < 2 ^ 64) := by
  rw [not_fits_iff hl] at hfits
  rw [Ne, eq_minusZero_iff h hl] at hzero
  unfold wholeValue
  split_ifs with hsign
  · have hvalue : decimalValue l.whole ≠ 0 := fun hvalue => hzero ⟨hsign, hvalue⟩
    omega
  · have hlarge := hfits (Bool.eq_false_iff.2 hsign)
    omega

end Json.Literal

theorem isWholeOutside_of_large {x : Binary64} (hone : x.ratio.2 = 1) (h : 2 ^ 64 ≤ x.ratio.1)
    (minus : Bool) : isWholeOutside minus x = true := by
  have hlarge : x.atLeast (Nat.pow 2 64) = true := by
    rw [Binary64.atLeast, hone, Nat.mul_one]
    exact decide_eq_true h
  simp [isWholeOutside, Binary64.isWhole_of_ratio hone, hlarge]

theorem isWholeOutside_of_negative {x : Binary64} (hone : x.ratio.2 = 1) (h : 0 < x.ratio.1) :
    isWholeOutside true x = true := by
  simp [isWholeOutside, Binary64.isWhole_of_ratio hone, Binary64.mantissa_ne_zero_of_ratio h]

/-- A whole number that is no value is made out to be outside, unless it is minus zero. -/
theorem Json.Numeral.isOutside_of_integer {t : List Char} {n : Numeral}
    (h : NumberText t n.literal) (hl : n.literal.isInteger = true) (hfits : ¬ n.literal.Fits)
    (hzero : n.literal ≠ .minusZero) : n.number.isOutside = true := by
  have hnumber := n.number_eq
  rw [Literal.not_fits_iff hl] at hfits
  rw [Ne, Literal.eq_minusZero_iff h hl] at hzero
  by_cases hsmall : decimalValue n.literal.whole < 2 ^ 64
  · have hsign : n.literal.negative = true := by
      by_contra hsign
      exact absurd (hfits (by simpa using hsign)) (Nat.not_le.2 hsmall)
    have hvalue : decimalValue n.literal.whole ≠ 0 := fun hvalue => hzero ⟨hsign, hvalue⟩
    rw [Literal.number?_of_small hl hsmall, if_neg (by simp [hsign])] at hnumber
    -- down to -2^63 the number is kept, below it is rounded
    split at hnumber
    · rw [← Option.some.inj hnumber]
      rfl
    · obtain ⟨x, hx, hnumber⟩ := Option.map_eq_some_iff.1 hnumber
      obtain ⟨hlarge, hone⟩ := Binary64.two_pow_le_of_ofRatio? (k := 63) Nat.one_pos (by decide)
        (by omega) hx
      rw [← hnumber]
      exact isWholeOutside_of_negative hone (by omega)
  · have hlarge := Nat.not_lt.1 hsmall
    rw [Literal.number?_of_rounded fun _ => hlarge] at hnumber
    obtain ⟨x, hx, hnumber⟩ := Option.map_eq_some_iff.1 hnumber
    obtain ⟨m, k, hmagnitude, hm, hk⟩ := Literal.magnitude?_of_large hl h.wholeText.toDigits hlarge
    rw [hmagnitude] at hx
    obtain ⟨hle, hone⟩ := Binary64.two_pow_le_of_ofScaled? hm hk hx
    rw [← hnumber]
    exact isWholeOutside_of_large hone hle _

/-- The first member, in byte order of family and then of label, whose literal does not fit. -/
structure Literals.FirstRefused (ls : Literals) (family label : String) (l : Json.Literal) :
    Prop where
  stands : ls.literal? family label = some l
  refused : ¬ l.Fits
  families_before : ∀ f k m, ls.literal? f k = some m → utf8 f.toList < utf8 family.toList → m.Fits
  labels_before : ∀ k m, ls.literal? family k = some m → utf8 k.toList < utf8 label.toList → m.Fits

theorem Document.firstOffence_of_firstRefused {d : Document} {family label : String}
    {l : Json.Literal} (h : d.literals.FirstRefused family label l) :
    ∃ n, d.FirstOffence family label n ∧ n.literal = l := by
  have hfits {f k : String} {m : Numeral} (hm : d.numeral? f k = some m) :
      d.literals.literal? f k = some m.literal := (d.literal?_eq_some_iff f k _).2 ⟨m, hm, rfl⟩
  obtain ⟨n, hn, rfl⟩ := (d.literal?_eq_some_iff family label l).1 h.stands
  refine ⟨n, ⟨hn, mt n.isValue_iff.1 h.refused, ?_, ?_⟩, rfl⟩
  · intro f k m hm hlt
    exact m.isValue_iff.2 (h.families_before f k _ (hfits hm) hlt)
  · intro k m hm hlt
    exact m.isValue_iff.2 (h.labels_before k _ (hfits hm) hlt)

theorem DocumentText.exists_numberText {text : String} {ls : Literals} (h : DocumentText text ls)
    {family label : String} {l : Json.Literal} (hl : ls.literal? family label = some l) :
    ∃ t, NumberText t l := by
  have hmem {α : Type} {es : List (String × α)} {k : String} {a : α}
      (ha : es.reverse.lookup k = some a) : (k, a) ∈ es := by
    obtain ⟨before, after, hes, -⟩ := List.lookup_eq_some_iff.1 ha
    exact List.mem_reverse.1 (by simp [hes])
  obtain ⟨members, hmembers, hl⟩ := Option.bind_eq_some_iff.1 hl
  obtain ⟨_, _, -, ⟨_, _, -, -, hfamilies⟩, -⟩ := h
  obtain ⟨_, _, _, -, -, hlabels⟩ := hfamilies.exists_value _ (hmem hmembers)
  obtain ⟨_, _, t, -, -, ht⟩ := hlabels.exists_value _ (hmem hl)
  exact ⟨t, ht⟩

theorem Literals.FirstRefused.ofText_eq {text : String} {ls : Literals} {family label : String}
    {l : Json.Literal} (hfirst : ls.FirstRefused family label l) (h : DocumentText text ls)
    (hdecodes : ls.Decodes) (path : String) :
    ∃ n : Numeral, n.literal = l ∧
      Library.ofText path text = .error (refusal family label n.number) := by
  obtain ⟨d, rfl⟩ := (Literals.decodes_iff ls).1 hdecodes
  obtain ⟨n, hn, hl⟩ := Document.firstOffence_of_firstRefused hfirst
  rw [Library.ofText_of_read ((Document.read_eq_ok_iff text d).2 h)]
  exact ⟨n, hl, (d.library_eq_error_iff _).2 ⟨family, label, n, hn, rfl⟩⟩

/-- Whole numbers are reported as out of range, and only other numbers as no integers, unless the
first number that is refused is minus zero. -/
theorem whole_numbers_out_of_range_iff (path : String) {text : String} {ls : Literals}
    (h : DocumentText text ls) (hdecodes : ls.Decodes) {family label : String} {l : Json.Literal}
    (hfirst : ls.FirstRefused family label l) :
    ((l.isInteger = true →
        (∃ t, Library.ofText path text = .error (.outOfRange family label t .u64)) ∧
          ¬ (0 ≤ l.wholeValue ∧ l.wholeValue < 2 ^ 64)) ∧
      ∀ f k t, Library.ofText path text = .error (.notAnInteger f k t) →
        ∀ m, ls.literal? f k = some m → m.isInteger = false) ↔
    l ≠ .minusZero := by
  obtain ⟨t, ht⟩ := h.exists_numberText hfirst.stands
  obtain ⟨n, rfl, hfail⟩ := hfirst.ofText_eq h hdecodes path
  rw [hfail]
  constructor
  · rintro ⟨hrange, -⟩ hzero
    have hinteger : n.literal.isInteger = true := by rw [hzero]; rfl
    have hvalue : n.literal.wholeValue = 0 := by rw [hzero]; rfl
    exact (hrange hinteger).2 (by omega)
  · intro hzero
    have hreported (hl : n.literal.isInteger = true) :
        refusal family label n.number = .outOfRange family label n.number.text .u64 :=
      if_pos (n.isOutside_of_integer ht hl hfirst.refused hzero)
    refine ⟨fun hl => ⟨⟨_, congrArg _ (hreported hl)⟩, ?_⟩, ?_⟩
    · exact Literal.wholeValue_outside ht hl hfirst.refused hzero
    · intro f k s herror m hm
      have hrefusal := Except.error.inj herror
      cases hl : n.literal.isInteger with
      | true => simp [hreported hl] at hrefusal
      | false =>
        unfold refusal at hrefusal
        split at hrefusal
        · simp at hrefusal
        · obtain ⟨rfl, rfl, -⟩ := Error.notAnInteger.inj hrefusal
          obtain rfl := Option.some.inj (hm.symm.trans hfirst.stands)
          exact hl

theorem Literals.firstRefused_single {l : Json.Literal} (h : ¬ l.Fits) :
    (single l).FirstRefused "A" "x" l where
  stands := (literal?_single l l "A" "x").2 ⟨rfl, rfl, rfl⟩
  refused := h
  families_before := by
    intro f k m hm hlt
    rw [((literal?_single l m f k).1 hm).1] at hlt
    exact absurd hlt (List.lt_irrefl _)
  labels_before := by
    intro k m hm hlt
    rw [((literal?_single l m "A" k).1 hm).2.1] at hlt
    exact absurd hlt (List.lt_irrefl _)

/-- A document of the least number that 64 bits do not hold. -/
def Document.excessText : String := "\x7b\"A\":\x7b\"x\":18446744073709551616\x7d\x7d"

def Json.Literal.excess : Json.Literal := ⟨false, "18446744073709551616".toList, none, none⟩

theorem excess_out_of_range :
    (Literals.single .excess).FirstRefused "A" "x" .excess ∧ Json.Literal.excess ≠ .minusZero ∧
      (∃ t, Library.ofText inlinePath Document.excessText = .error (.outOfRange "A" "x" t .u64)) ∧
      ∀ f k t, Library.ofText inlinePath Document.excessText ≠ .error (.notAnInteger f k t) := by
  have h : DocumentText Document.excessText (.single .excess) :=
    (reads_literal.object.object.readDocument_eq_ok_iff _ _).1 rfl
  have hdecodes : (Literals.single .excess).Decodes :=
    (Literals.decodes_single _).2 (by decide +kernel)
  have hfirst : (Literals.single .excess).FirstRefused "A" "x" .excess :=
    Literals.firstRefused_single ((Json.Literal.not_fits_iff rfl).2 fun _ => by decide +kernel)
  have hzero : Json.Literal.excess ≠ .minusZero := by decide
  obtain ⟨hrange, -⟩ := (whole_numbers_out_of_range_iff inlinePath h hdecodes hfirst).2 hzero
  obtain ⟨t, ht⟩ := (hrange rfl).1
  exact ⟨hfirst, hzero, ⟨t, ht⟩, by simp [ht]⟩

/-- A document of minus zero. -/
def Document.minusZeroText : String := "\x7b\"A\":\x7b\"x\":-0\x7d\x7d"

/-- Minus zero is a whole number within the range, and is called no integer. -/
theorem minusZero_called_no_integer :
    DocumentText Document.minusZeroText (.single .minusZero) ∧ (Literals.single .minusZero).Decodes ∧
      (Literals.single .minusZero).FirstRefused "A" "x" .minusZero ∧
      Json.Literal.minusZero.isInteger = true ∧ Json.Literal.minusZero.wholeValue = 0 ∧
      Library.ofText inlinePath Document.minusZeroText = .error (.notAnInteger "A" "x" "-0.0") := by
  refine ⟨(reads_literal.object.object.readDocument_eq_ok_iff _ _).1 rfl,
    (Literals.decodes_single _).2 (by decide +kernel),
    Literals.firstRefused_single ((Json.Literal.not_fits_iff rfl).2 fun h => ?_), rfl, rfl,
    by decide +kernel⟩
  exact absurd h (by decide)

end EnumForge
