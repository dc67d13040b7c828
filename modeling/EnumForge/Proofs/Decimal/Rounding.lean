import EnumForge.Decimal.Binary64
import Mathlib.Algebra.Order.Ring.Nat
import Mathlib.Tactic.GCongr
import Mathlib.Tactic.Positivity
import Mathlib.Tactic.Ring

namespace EnumForge.Decimal.Binary64

theorem scaleRatio_natCast (num den e : Nat) : scaleRatio num den e = (num, den * 2 ^ e) := by
  simp [scaleRatio]

/-- The exponent of a ratio of at least 2^52 leaves 53 bits before the point. -/
theorem exponentOf_eq {num den : Nat} (hden : 0 < den) (h : 2 ^ 52 * den ≤ num) :
    ∃ e : Nat, exponentOf num den = e ∧ 2 ^ 52 * (den * 2 ^ e) ≤ num ∧
      num < 2 ^ 53 * (den * 2 ^ e) := by
  have hnum : num ≠ 0 := by
    have hpos : 0 < 2 ^ 52 * den := by positivity
    omega
  have hlow : 2 ^ num.log2 ≤ num := Nat.log2_self_le hnum
  have hhigh : num < 2 ^ (num.log2 + 1) := Nat.lt_log2_self
  have hdenlow : 2 ^ den.log2 ≤ den := Nat.log2_self_le (Nat.ne_of_gt hden)
  have hdenhigh : den < 2 ^ (den.log2 + 1) := Nat.lt_log2_self
  obtain ⟨g, hg⟩ : ∃ g, num.log2 = 52 + den.log2 + g := by
    apply Nat.exists_eq_add_of_le
    rw [Nat.le_log2 hnum, pow_add]
    exact le_trans (Nat.mul_le_mul_left _ hdenlow) h
  have hguess : (num.log2 : Int) - den.log2 - 52 = g := by omega
  have hexponent : exponentOf num den =
      max (if num < 2 ^ 52 * (den * 2 ^ g) then (g : Int) - 1 else g) minExponent := by
    rw [exponentOf, hguess, scaleRatio_natCast]
    rfl
  -- the difference of the lengths is the exponent or one more than it
  by_cases hbelow : num < 2 ^ 52 * (den * 2 ^ g)
  · cases g with
    | zero => omega
    | succ e =>
      rw [if_pos hbelow] at hexponent
      refine ⟨e, ?_, ?_, ?_⟩
      · rw [hexponent, minExponent]
        omega
      · calc 2 ^ 52 * (den * 2 ^ e) ≤ 2 ^ 52 * (2 ^ (den.log2 + 1) * 2 ^ e) := by gcongr
          _ = 2 ^ num.log2 := by rw [hg]; ring
          _ ≤ num := hlow
      · calc num < 2 ^ 52 * (den * 2 ^ (e + 1)) := hbelow
          _ = 2 ^ 53 * (den * 2 ^ e) := by ring
  · rw [if_neg hbelow] at hexponent
    refine ⟨g, ?_, Nat.not_lt.1 hbelow, ?_⟩
    · rw [hexponent, minExponent]
      omega
    · calc num < 2 ^ (num.log2 + 1) := hhigh
        _ = 2 ^ 53 * (2 ^ den.log2 * 2 ^ g) := by rw [hg]; ring
        _ ≤ 2 ^ 53 * (den * 2 ^ g) := by gcongr

theorem ratio_natCast (m e : Nat) : ratio ⟨m, e⟩ = (m * 2 ^ e, 1) := by
  simp [ratio]

/-- Where a number of at least 2^52 is rounded to: a multiple of a power of two that leaves it 53
bits. -/
theorem ofRatio?_eq {num den : Nat} {x : Binary64} (hden : 0 < den) (h : 2 ^ 52 * den ≤ num)
    (hx : ofRatio? num den = some x) :
    ∃ e : Nat, 2 ^ 52 * (den * 2 ^ e) ≤ num ∧ num < 2 ^ 53 * (den * 2 ^ e) ∧
      x.ratio = (roundDiv num (den * 2 ^ e) * 2 ^ e, 1) := by
  obtain ⟨e, he, hlow, hhigh⟩ := exponentOf_eq hden h
  have hnum : num ≠ 0 := by
    have hpos : 0 < 2 ^ 52 * den := by positivity
    omega
  refine ⟨e, hlow, hhigh, ?_⟩
  rw [ofRatio?, if_neg hnum, he] at hx
  dsimp only at hx
  rw [scaleRatio_natCast] at hx
  dsimp only at hx
  split at hx
  · next hm =>
    -- the mantissa has become 2^53 and is halved, with the exponent one higher
    split at hx
    · simp at hx
    · obtain rfl := Option.some.inj hx
      have hvalue : 2 ^ 52 * 2 ^ (e + 1) = 2 ^ 53 * 2 ^ e := by ring
      rw [hm]
      exact (ratio_natCast (2 ^ 52) (e + 1)).trans (congrArg (·, 1) hvalue)
  · split at hx
    · simp at hx
    · obtain rfl := Option.some.inj hx
      exact ratio_natCast _ _

theorem le_roundDiv {num den k : Nat} (hden : 0 < den) (h : k * den ≤ num) :
    k ≤ roundDiv num den := by
  have hk : k ≤ num / den := (Nat.le_div_iff_mul_le hden).2 h
  unfold roundDiv
  dsimp only
  split_ifs <;> omega

/-- Rounding keeps a number at or above a power of two. -/
theorem two_pow_le_of_ofRatio? {num den k : Nat} {x : Binary64} (hden : 0 < den) (hk : 52 ≤ k)
    (h : 2 ^ k * den ≤ num) (hx : ofRatio? num den = some x) :
    2 ^ k ≤ x.ratio.1 ∧ x.ratio.2 = 1 := by
  have hbits : 2 ^ 52 * den ≤ num :=
    le_trans (Nat.mul_le_mul_right _ (Nat.pow_le_pow_right (by decide) hk)) h
  obtain ⟨e, hlow, hhigh, hratio⟩ := ofRatio?_eq hden hbits hx
  have hpos : 0 < den * 2 ^ e := by positivity
  have hke : k ≤ 52 + e := by
    have hlt : 2 ^ k * den < 2 ^ (53 + e) * den := by
      calc 2 ^ k * den ≤ num := h
        _ < 2 ^ 53 * (den * 2 ^ e) := hhigh
        _ = 2 ^ (53 + e) * den := by ring
    have hpow := (Nat.pow_lt_pow_iff_right (by decide)).1 (Nat.lt_of_mul_lt_mul_right hlt)
    omega
  rw [hratio]
  refine ⟨?_, rfl⟩
  calc 2 ^ k ≤ 2 ^ (52 + e) := Nat.pow_le_pow_right (by decide) hke
    _ = 2 ^ 52 * 2 ^ e := pow_add 2 52 e
    _ ≤ roundDiv num (den * 2 ^ e) * 2 ^ e := Nat.mul_le_mul_right _ (le_roundDiv hpos hlow)

theorem isWhole_of_ratio {x : Binary64} (h : x.ratio.2 = 1) : x.isWhole = true := by
  simp [isWhole, h, Nat.mod_one]

theorem mantissa_ne_zero_of_ratio {x : Binary64} (h : 0 < x.ratio.1) : x.mantissa ≠ 0 := by
  intro hzero
  simp [ratio, hzero] at h

/-- Digits that another digit would take beyond 64 bits are not rounded below a tenth of 2^64. -/
theorem two_pow_le_ten_mul_of_ofNat? {n : Nat} {x : Binary64} (h : 2 ^ 64 ≤ 10 * n + 9)
    (hx : ofNat? n = some x) : 2 ^ 64 ≤ 10 * x.ratio.1 ∧ x.ratio.2 = 1 := by
  by_cases hlarge : 2 ^ 61 ≤ n
  · obtain ⟨hle, hone⟩ := two_pow_le_of_ofRatio? (k := 61) Nat.one_pos (by decide) (by omega) hx
    exact ⟨by omega, hone⟩
  · -- between 2^60 and 2^61 numbers are rounded to multiples of 256
    obtain ⟨e, hlow, hhigh, hratio⟩ := ofRatio?_eq Nat.one_pos (by omega) hx
    rw [one_mul] at hlow hhigh
    have he : e = 8 := by
      have hle : 2 ^ (52 + e) < 2 ^ 61 := by
        rw [pow_add]
        omega
      have hge : 2 ^ 60 < 2 ^ (53 + e) := by
        rw [pow_add]
        omega
      have h1 := (Nat.pow_lt_pow_iff_right (by decide)).1 hle
      have h2 := (Nat.pow_lt_pow_iff_right (by decide)).1 hge
      omega
    subst he
    have hround : 7205759403792794 ≤ roundDiv n (1 * 2 ^ 8) := by
      unfold roundDiv
      dsimp only
      split_ifs <;> omega
    rw [hratio]
    refine ⟨?_, rfl⟩
    dsimp only
    omega

theorem ten_mul_le_of_powerOfTen? {k : Nat} {y : Binary64} (hk : 1 ≤ k)
    (hy : powerOfTen? k = some y) : 10 * y.ratio.2 ≤ y.ratio.1 := by
  by_cases hsmall : k < 16
  · have hall : ∀ k < 16, 1 ≤ k → ∀ y ∈ powerOfTen? k, 10 * y.ratio.2 ≤ y.ratio.1 := by decide
    exact hall k hsmall hk y hy
  · have hpow : 10 ^ 16 ≤ 10 ^ k := Nat.pow_le_pow_right (by decide) (Nat.not_lt.1 hsmall)
    obtain ⟨hle, hone⟩ := two_pow_le_of_ofRatio? (k := 52) Nat.one_pos (by decide)
      (by simp only [Nat.pow_eq]; omega) hy
    rw [hone]
    omega

/-- Digits that go beyond 64 bits are a whole number beyond 64 bits, once the first of them are
rounded and scaled. -/
theorem two_pow_le_of_ofScaled? {n k : Nat} {x : Binary64} (h : 2 ^ 64 ≤ 10 * n + 9) (hk : 1 ≤ k)
    (hx : ofScaled? n k = some x) : 2 ^ 64 ≤ x.ratio.1 ∧ x.ratio.2 = 1 := by
  obtain ⟨y, hy, hx⟩ := Option.bind_eq_some_iff.1 hx
  obtain ⟨hten, hone⟩ := two_pow_le_ten_mul_of_ofNat? h hy
  rw [if_pos (Int.natCast_nonneg k), Int.toNat_natCast, mulPowerOfTen?] at hx
  split at hx
  · obtain ⟨p, hp, hx⟩ := Option.bind_eq_some_iff.1 hx
    have hpower := ten_mul_le_of_powerOfTen? hk hp
    have hden : 0 < p.ratio.2 := Nat.pow_pos (by decide)
    rw [mul?, hone, one_mul] at hx
    refine two_pow_le_of_ofRatio? hden (by decide) ?_ hx
    calc 2 ^ 64 * p.ratio.2 ≤ 10 * y.ratio.1 * p.ratio.2 := Nat.mul_le_mul_right _ hten
      _ = y.ratio.1 * (10 * p.ratio.2) := by ring
      _ ≤ y.ratio.1 * p.ratio.1 := Nat.mul_le_mul_left _ hpower
  · have hzero : y.mantissa ≠ 0 := mantissa_ne_zero_of_ratio (by omega)
    simp [hzero] at hx

end EnumForge.Decimal.Binary64
