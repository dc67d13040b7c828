import EnumForge.Json.Number
import EnumForge.Proofs.Checked
import Mathlib.Algebra.Order.Ring.Nat

namespace EnumForge.Json

/-- Digits, at least one. -/
structure Digits (ds : List Char) : Prop where
  ne_nil : ds ≠ []
  all_digits : ∀ c ∈ ds, isDigit c = true

/-- Digits before a point: a leading zero stands alone. -/
structure WholeText (ds : List Char) : Prop extends Digits ds where
  eq_zero : ds.head? = some '0' → ds = ['0']

/-- A point with digits after it, or nothing. -/
inductive FractionText : List Char → Option (List Char) → Prop
  | absent : FractionText [] none
  | present {ds : List Char} : Digits ds → FractionText ('.' :: ds) (some ds)

/-- Signs of a power of ten, each with whether it is a minus. -/
def powerSigns : List (List Char × Bool) := [([], false), (['+'], false), (['-'], true)]

/-- A power of ten, or nothing. -/
inductive PowerText : List Char → Option Power → Prop
  | absent : PowerText [] none
  | present {mark : Char} {sign ds : List Char} {negative : Bool} : mark = 'e' ∨ mark = 'E' →
      (sign, negative) ∈ powerSigns → Digits ds →
      PowerText (mark :: (sign ++ ds)) (some ⟨negative, ds⟩)

def signText (negative : Bool) : List Char := if negative then ['-'] else []

inductive NumberText : List Char → Literal → Prop
  | intro {whole f p : List Char} {fraction : Option (List Char)} {power : Option Power}
      (negative : Bool) : WholeText whole → FractionText f fraction → PowerText p power →
      NumberText (signText negative ++ (whole ++ (f ++ p))) ⟨negative, whole, fraction, power⟩

/-- A rest at which a number ends, whatever its parts. -/
def Delimited (rest : List Char) : Prop :=
  ∀ c ∈ rest.head?, isDigit c = false ∧ c ≠ '.' ∧ c ≠ 'e' ∧ c ≠ 'E'

theorem NumberText.wholeText {t : List Char} {l : Literal} (h : NumberText t l) :
    WholeText l.whole := by
  cases h with
  | intro _ hwhole => exact hwhole

theorem isDigit_iff (c : Char) : isDigit c = true ↔ '0' ≤ c ∧ c ≤ '9' := by
  simp [isDigit]

/-- Digits end where something else stands. -/
theorem span_digits {ds rest : List Char} (hds : Digits ds)
    (hrest : ∀ c ∈ rest.head?, isDigit c = false) :
    (ds ++ rest).takeWhile isDigit = ds ∧ (ds ++ rest).dropWhile isDigit = rest := by
  rw [List.takeWhile_append_of_pos hds.all_digits, List.dropWhile_append_of_pos hds.all_digits]
  cases rest with
  | nil => simp
  | cons c rest => simp [hrest c rfl]

theorem digits_takeWhile {c : Char} {s : List Char} (hc : isDigit c = true) :
    Digits ((c :: s).takeWhile isDigit) where
  ne_nil := by simp [hc]
  all_digits := List.all_eq_true.1 List.all_takeWhile

theorem Digits.exists_cons {ds : List Char} (h : Digits ds) :
    ∃ c cs, ds = c :: cs ∧ isDigit c = true := by
  obtain ⟨c, cs, rfl⟩ := List.exists_cons_of_ne_nil h.ne_nil
  exact ⟨c, cs, rfl, h.all_digits c (by simp)⟩

theorem wholeText_of_readWhole {atEnd : Cause} {s ds rest : List Char}
    (h : readWhole atEnd s = .ok (ds, rest)) : s = ds ++ rest ∧ WholeText ds := by
  have hzero : WholeText ['0'] := ⟨⟨by simp, List.forall_mem_singleton.2 rfl⟩, fun _ => rfl⟩
  unfold readWhole at h
  split at h
  · simp at h
  · next c r =>
    split at h
    · next hc =>
      subst hc
      split at h
      · next d r =>
        split at h
        · simp at h
        · obtain ⟨rfl, rfl⟩ := Prod.mk.inj (Except.ok.inj h)
          exact ⟨rfl, hzero⟩
      · obtain ⟨rfl, rfl⟩ := Prod.mk.inj (Except.ok.inj h)
        exact ⟨rfl, hzero⟩
    · next hc =>
      split at h
      · next hdigit =>
        obtain ⟨rfl, rfl⟩ := Prod.mk.inj (Except.ok.inj h)
        refine ⟨(List.takeWhile_append_dropWhile).symm, digits_takeWhile hdigit, ?_⟩
        intro hhead
        rw [List.takeWhile_cons_of_pos hdigit] at hhead
        exact absurd (Option.some.inj hhead) hc
      · simp at h

theorem readWhole_of_wholeText {ds rest : List Char} (h : WholeText ds)
    (hrest : ∀ c ∈ rest.head?, isDigit c = false) (atEnd : Cause) :
    readWhole atEnd (ds ++ rest) = .ok (ds, rest) := by
  obtain ⟨c, cs, rfl, hc⟩ := h.toDigits.exists_cons
  obtain ⟨htake, hdrop⟩ := span_digits h.toDigits hrest
  by_cases hzero : c = '0'
  · subst hzero
    obtain rfl : cs = [] := (List.cons.inj (h.eq_zero rfl)).2
    cases rest with
    | nil => rfl
    | cons d rest => simp [readWhole, hrest d rfl]
  · rw [List.cons_append] at htake hdrop ⊢
    simp only [readWhole, if_neg hzero, if_pos hc, htake, hdrop]

theorem fractionText_of_readFraction? {atEnd : Cause} {s rest : List Char}
    {fraction : Option (List Char)} (h : readFraction? atEnd s = .ok (fraction, rest)) :
    ∃ f, s = f ++ rest ∧ FractionText f fraction := by
  unfold readFraction? at h
  split at h
  · split at h
    · simp at h
    · next c r =>
      split at h
      · next hc =>
        obtain ⟨rfl, rfl⟩ := Prod.mk.inj (Except.ok.inj h)
        refine ⟨_, ?_, .present (digits_takeWhile hc)⟩
        rw [List.cons_append, List.takeWhile_append_dropWhile]
      · simp at h
  · obtain ⟨rfl, rfl⟩ := Prod.mk.inj (Except.ok.inj h)
    exact ⟨[], rfl, .absent⟩

theorem readFraction?_of_fractionText {f rest : List Char} {fraction : Option (List Char)}
    (h : FractionText f fraction) (hrest : ∀ c ∈ rest.head?, isDigit c = false ∧ c ≠ '.')
    (atEnd : Cause) : readFraction? atEnd (f ++ rest) = .ok (fraction, rest) := by
  cases h with
  | absent =>
    rw [List.nil_append]
    unfold readFraction?
    split
    · exact absurd rfl (hrest '.' rfl).2
    · rfl
  | @present ds hds =>
    obtain ⟨c, cs, rfl, hc⟩ := hds.exists_cons
    obtain ⟨htake, hdrop⟩ := span_digits hds fun d hd => (hrest d hd).1
    rw [List.cons_append] at htake hdrop
    simp only [List.cons_append, readFraction?, if_pos hc, htake, hdrop]

/-- The digits of a power of ten, once its sign has been read. -/
def readPowerDigits (atEnd : Cause) (negative : Bool) (s : List Char) :
    Except Fault (Power × List Char) :=
  match s with
  | [] => .error (.here atEnd [])
  | c :: _ =>
    if isDigit c then .ok (⟨negative, s.takeWhile isDigit⟩, s.dropWhile isDigit)
    else .error (.next .invalidNumber s)

theorem readPower_unsigned {c : Char} {s : List Char} (hplus : c ≠ '+') (hminus : c ≠ '-')
    (atEnd : Cause) : readPower atEnd (c :: s) = readPowerDigits atEnd false (c :: s) := by
  unfold readPower
  split
  next hsign =>
    split at hsign
    · next h => exact absurd (List.cons.inj h).1 hplus
    · next h => exact absurd (List.cons.inj h).1 hminus
    · obtain ⟨rfl, rfl⟩ := Prod.mk.inj hsign
      rfl

theorem readPower_eq (atEnd : Cause) (s : List Char) :
    ∃ sign negative r, (sign, negative) ∈ powerSigns ∧ s = sign ++ r ∧
      readPower atEnd s = readPowerDigits atEnd negative r := by
  cases s with
  | nil => exact ⟨[], false, [], by decide, rfl, rfl⟩
  | cons c s =>
    by_cases hplus : c = '+'
    · subst hplus
      exact ⟨['+'], false, s, by decide, rfl, rfl⟩
    · by_cases hminus : c = '-'
      · subst hminus
        exact ⟨['-'], true, s, by decide, rfl, rfl⟩
      · exact ⟨[], false, c :: s, by decide, rfl, readPower_unsigned hplus hminus atEnd⟩

theorem powerText_of_readPower? {atEnd : Cause} {s rest : List Char} {power : Option Power}
    (h : readPower? atEnd s = .ok (power, rest)) :
    ∃ p, s = p ++ rest ∧ PowerText p power := by
  unfold readPower? at h
  split at h
  · next mark r =>
    split at h
    · next hmark =>
      obtain ⟨⟨p, rest⟩, hpower, h⟩ := (except_bind_eq_ok_iff _ _ _).1 h
      obtain ⟨rfl, rfl⟩ := Prod.mk.inj (Except.ok.inj h)
      obtain ⟨sign, negative, r, hsign, rfl, hread⟩ := readPower_eq atEnd r
      rw [hread] at hpower
      unfold readPowerDigits at hpower
      split at hpower
      · simp at hpower
      · next c r =>
        split at hpower
        · next hc =>
          obtain ⟨rfl, rfl⟩ := Prod.mk.inj (Except.ok.inj hpower)
          refine ⟨_, ?_, .present hmark hsign (digits_takeWhile hc)⟩
          rw [List.cons_append, List.append_assoc, List.takeWhile_append_dropWhile]
        · simp at hpower
    · obtain ⟨rfl, rfl⟩ := Prod.mk.inj (Except.ok.inj h)
      exact ⟨[], rfl, .absent⟩
  · obtain ⟨rfl, rfl⟩ := Prod.mk.inj (Except.ok.inj h)
    exact ⟨[], rfl, .absent⟩

theorem readPower?_of_powerText {p rest : List Char} {power : Option Power}
    (h : PowerText p power) (hrest : Delimited rest) (atEnd : Cause) :
    readPower? atEnd (p ++ rest) = .ok (power, rest) := by
  cases h with
  | absent =>
    cases rest with
    | nil => rfl
    | cons c rest =>
      obtain ⟨-, -, hlower, hupper⟩ := hrest c rfl
      simp [readPower?, hlower, hupper]
  | @present mark sign ds negative hmark hsign hds =>
    obtain ⟨htake, hdrop⟩ := span_digits hds fun d hd => (hrest d hd).1
    obtain ⟨c, cs, rfl, hc⟩ := hds.exists_cons
    have hdigits : readPowerDigits atEnd negative (c :: cs ++ rest) =
        .ok (⟨negative, c :: cs⟩, rest) := by
      rw [List.cons_append] at htake hdrop ⊢
      simp only [readPowerDigits, hc, if_true, htake, hdrop]
    have hread : readPower atEnd (sign ++ (c :: cs ++ rest)) = .ok (⟨negative, c :: cs⟩, rest) := by
      rw [← hdigits]
      simp only [powerSigns, List.mem_cons, Prod.mk.injEq, List.not_mem_nil, or_false] at hsign
      rcases hsign with ⟨rfl, rfl⟩ | ⟨rfl, rfl⟩ | ⟨rfl, rfl⟩
      · apply readPower_unsigned
        · rintro rfl
          exact absurd hc (by decide)
        · rintro rfl
          exact absurd hc (by decide)
      · rfl
      · rfl
    rw [List.cons_append, List.append_assoc, readPower?, if_pos hmark, hread]
    rfl

theorem PowerText.head_not_digit {p rest : List Char} {power : Option Power}
    (h : PowerText p power) (hrest : Delimited rest) :
    ∀ c ∈ (p ++ rest).head?, isDigit c = false ∧ c ≠ '.' := by
  cases h with
  | absent => exact fun c hc => ⟨(hrest c hc).1, (hrest c hc).2.1⟩
  | present hmark =>
    intro c hc
    obtain rfl := Option.some.inj hc
    rcases hmark with rfl | rfl <;> decide

theorem FractionText.head_not_digit {f rest : List Char} {fraction : Option (List Char)}
    (h : FractionText f fraction) (hrest : ∀ c ∈ rest.head?, isDigit c = false) :
    ∀ c ∈ (f ++ rest).head?, isDigit c = false := by
  cases h with
  | absent => exact hrest
  | present =>
    intro c hc
    obtain rfl := Option.some.inj hc
    decide

/-- The parts of a number after its sign. -/
def readUnsigned (atEnd : Cause) (negative : Bool) (s : List Char) :
    Except Fault (Literal × List Char) := do
  let (whole, s) ← readWhole atEnd s
  let (fraction, s) ← readFraction? atEnd s
  let (power, s) ← readPower? atEnd s
  .ok (⟨negative, whole, fraction, power⟩, s)

theorem readLiteral_unsigned {c : Char} {s : List Char} (hminus : c ≠ '-') (atEnd : Cause) :
    readLiteral atEnd (c :: s) = readUnsigned atEnd false (c :: s) := by
  unfold readLiteral
  split
  next hsign =>
    split at hsign
    · next h => exact absurd (List.cons.inj h).1 hminus
    · obtain ⟨rfl, rfl⟩ := Prod.mk.inj hsign
      rfl

theorem readLiteral_eq (atEnd : Cause) (s : List Char) :
    ∃ negative r, s = signText negative ++ r ∧
      readLiteral atEnd s = readUnsigned atEnd negative r := by
  cases s with
  | nil => exact ⟨false, [], rfl, rfl⟩
  | cons c s =>
    by_cases hminus : c = '-'
    · subst hminus
      exact ⟨true, s, rfl, rfl⟩
    · exact ⟨false, c :: s, rfl, readLiteral_unsigned hminus atEnd⟩

/-- What is read of a number is the text of the literal that it gives. -/
theorem numberText_of_readLiteral {atEnd : Cause} {s rest : List Char} {l : Literal}
    (h : readLiteral atEnd s = .ok (l, rest)) : ∃ t, s = t ++ rest ∧ NumberText t l := by
  obtain ⟨negative, r, rfl, hread⟩ := readLiteral_eq atEnd s
  rw [hread] at h
  obtain ⟨⟨whole, r⟩, hwhole, h⟩ := (except_bind_eq_ok_iff _ _ _).1 h
  obtain ⟨⟨fraction, r⟩, hfraction, h⟩ := (except_bind_eq_ok_iff _ _ _).1 h
  obtain ⟨⟨power, r⟩, hpower, h⟩ := (except_bind_eq_ok_iff _ _ _).1 h
  obtain ⟨rfl, rfl⟩ := Prod.mk.inj (Except.ok.inj h)
  obtain ⟨rfl, hw⟩ := wholeText_of_readWhole hwhole
  obtain ⟨f, rfl, hf⟩ := fractionText_of_readFraction? hfraction
  obtain ⟨p, rfl, hp⟩ := powerText_of_readPower? hpower
  exact ⟨_, by simp only [List.append_assoc], .intro negative hw hf hp⟩

/-- The text of a literal is read up to its end. -/
theorem readLiteral_of_numberText {t rest : List Char} {l : Literal} (h : NumberText t l)
    (hrest : Delimited rest) (atEnd : Cause) : readLiteral atEnd (t ++ rest) = .ok (l, rest) := by
  cases h with
  | @intro whole f p fraction power negative hwhole hfraction hpower =>
    have hafter := hpower.head_not_digit hrest
    have hread : readUnsigned atEnd negative (whole ++ (f ++ (p ++ rest))) =
        .ok (⟨negative, whole, fraction, power⟩, rest) := by
      rw [readUnsigned, readWhole_of_wholeText hwhole
        (hfraction.head_not_digit fun c hc => (hafter c hc).1)]
      simp only [bind, Except.bind, readFraction?_of_fractionText hfraction hafter,
        readPower?_of_powerText hpower hrest]
    rw [← hread]
    simp only [List.append_assoc]
    cases negative with
    | true => rfl
    | false =>
      obtain ⟨c, cs, rfl, hc⟩ := hwhole.toDigits.exists_cons
      refine readLiteral_unsigned ?_ atEnd
      rintro rfl
      exact absurd hc (by decide)

/-- The number that digits denote after those of another number. -/
def valueFrom (n : Nat) (ds : List Char) : Nat := ds.foldl (fun n c => 10 * n + digitValue c) n

theorem decimalValue_eq (ds : List Char) : decimalValue ds = valueFrom 0 ds := rfl

theorem le_valueFrom (n : Nat) (ds : List Char) : n ≤ valueFrom n ds := by
  induction ds generalizing n with
  | nil => exact Nat.le_refl n
  | cons d ds ih =>
    have h := ih (10 * n + digitValue d)
    rw [valueFrom, List.foldl_cons, ← valueFrom]
    omega

theorem digitValue_le {c : Char} (h : isDigit c = true) : digitValue c ≤ 9 := by
  obtain ⟨-, hnine⟩ := (isDigit_iff c).1 h
  have hle : c.toNat ≤ '9'.toNat := hnine
  have h0 : '0'.toNat = 48 := rfl
  have h9 : '9'.toNat = 57 := rfl
  rw [digitValue]
  omega

theorem digitValue_pos {c : Char} (h : isDigit c = true) (hzero : c ≠ '0') : 0 < digitValue c := by
  obtain ⟨h0, -⟩ := (isDigit_iff c).1 h
  have hle : '0'.toNat ≤ c.toNat := h0
  have hne : c.toNat ≠ '0'.toNat := fun hc => hzero (Char.toNat_inj.1 hc)
  rw [digitValue]
  omega

/-- Only a single zero denotes zero. -/
theorem WholeText.eq_zero_of_value {ds : List Char} (h : WholeText ds)
    (hvalue : decimalValue ds = 0) : ds = ['0'] := by
  obtain ⟨c, cs, rfl, hc⟩ := h.toDigits.exists_cons
  by_cases hzero : c = '0'
  · exact h.eq_zero (congrArg some hzero)
  · have hpos := digitValue_pos hc hzero
    have hle := le_valueFrom (10 * 0 + digitValue c) cs
    rw [decimalValue_eq, valueFrom, List.foldl_cons, ← valueFrom] at hvalue
    omega

theorem absorb_of_lt {n : Nat} {ds : List Char} (h : valueFrom n ds < 2 ^ 64) :
    absorb n ds = (valueFrom n ds, []) := by
  induction ds generalizing n with
  | nil => rfl
  | cons d ds ih =>
    have hle := le_valueFrom (10 * n + digitValue d) ds
    rw [valueFrom, List.foldl_cons, ← valueFrom] at h ⊢
    have hlt : 10 * n + digitValue d < Nat.pow 2 64 := Nat.lt_of_le_of_lt hle h
    rw [absorb, if_pos hlt, ih h]

/-- Digits are cut where the next one would take the number beyond 64 bits. -/
theorem absorb_of_le {n : Nat} {ds : List Char} (hn : n < 2 ^ 64) (h : 2 ^ 64 ≤ valueFrom n ds) :
    ∃ m d rest, absorb n ds = (m, d :: rest) ∧ d ∈ ds ∧ m < 2 ^ 64 ∧
      2 ^ 64 ≤ 10 * m + digitValue d := by
  induction ds generalizing n with
  | nil => exact absurd h (Nat.not_le.2 hn)
  | cons d ds ih =>
    rw [valueFrom, List.foldl_cons, ← valueFrom] at h
    rw [absorb]
    split
    · next hlt =>
      obtain ⟨m, e, rest, habsorb, he, hm⟩ := ih hlt h
      exact ⟨m, e, rest, habsorb, List.mem_cons_of_mem d he, hm⟩
    · next hge => exact ⟨n, d, ds, rfl, by simp, hn, Nat.not_lt.1 hge⟩

/-- The literal is nothing but digits, which denote a number. -/
structure Literal.DenotesNat (l : Literal) (n : Nat) : Prop where
  unsigned : l.negative = false
  isInteger : l.isInteger = true
  value : decimalValue l.whole = n

/-- A whole number that 64 bits hold keeps its digits, unless its sign is lost on zero or takes it
below -2^63. -/
theorem Literal.number?_of_small {l : Literal} (hl : l.isInteger = true)
    (h : decimalValue l.whole < 2 ^ 64) :
    l.number? =
      if l.negative = false then some (.natural (decimalValue l.whole))
      else if 0 < decimalValue l.whole ∧ decimalValue l.whole ≤ 2 ^ 63 then
        some (.negative (decimalValue l.whole))
      else (Decimal.Binary64.ofNat? (decimalValue l.whole)).map (.real true) := by
  rw [decimalValue_eq] at h ⊢
  rw [number?, absorb_of_lt h]
  cases hsign : l.negative <;> simp [hl]

theorem Literal.number?_of_rounded {l : Literal}
    (h : l.isInteger = true → 2 ^ 64 ≤ decimalValue l.whole) :
    l.number? = l.magnitude?.map (.real l.negative) := by
  rw [number?]
  split
  next m dropped habsorb =>
    refine if_neg ?_
    rintro ⟨hinteger, rfl⟩
    obtain ⟨m', d, rest, hcut, -⟩ := absorb_of_le (by decide) (h hinteger)
    simp [hcut] at habsorb

theorem Literal.isInteger_iff (l : Literal) :
    l.isInteger = true ↔ l.fraction = none ∧ l.power = none := by
  simp [isInteger]

/-- A whole number beyond 64 bits is rounded from its leading digits as far as 64 bits hold them. -/
theorem Literal.magnitude?_of_large {l : Literal} (hl : l.isInteger = true)
    (hdigits : Digits l.whole) (h : 2 ^ 64 ≤ decimalValue l.whole) :
    ∃ m k : Nat, l.magnitude? = Decimal.Binary64.ofScaled? m k ∧ 2 ^ 64 ≤ 10 * m + 9 ∧ 1 ≤ k := by
  obtain ⟨hfraction, hpower⟩ := l.isInteger_iff.1 hl
  obtain ⟨m, d, rest, habsorb, hd, -, hlarge⟩ := absorb_of_le (by decide) h
  have hnine := digitValue_le (hdigits.all_digits d hd)
  refine ⟨m, (d :: rest).length, ?_, by omega, by simp⟩
  simp [magnitude?, significand, habsorb, hfraction, hpower, absorb]

/-- A literal has a natural number for its value when its digits denote one that 64 bits hold. -/
theorem Literal.number?_eq_natural_iff (l : Literal) (n : Nat) :
    l.number? = some (.natural n) ↔ l.DenotesNat n ∧ n < 2 ^ 64 := by
  have hreal (x : Option Decimal.Binary64) (minus : Bool) :
      x.map (Number.real minus) ≠ some (.natural n) := by
    cases x <;> simp
  constructor
  · intro h
    by_cases hsmall : l.isInteger = true ∧ decimalValue l.whole < 2 ^ 64
    · rw [number?_of_small hsmall.1 hsmall.2] at h
      split at h
      · next hsign =>
        obtain rfl := Number.natural.inj (Option.some.inj h)
        exact ⟨⟨hsign, hsmall.1, rfl⟩, hsmall.2⟩
      · split at h
        · simp at h
        · exact absurd h (hreal _ _)
    · rw [number?_of_rounded fun hinteger => Nat.not_lt.1 fun hlt => hsmall ⟨hinteger, hlt⟩] at h
      exact absurd h (hreal _ _)
  · rintro ⟨⟨hsign, hinteger, rfl⟩, hlt⟩
    rw [number?_of_small hinteger hlt, if_pos hsign]

end EnumForge.Json
