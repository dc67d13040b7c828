import EnumForge.Emit.Token
import Mathlib.Tactic.SplitIfs

namespace EnumForge.Text

/-- A way to write digits that the reader of one digit undoes. -/
def WritesDigits (write : Char → Char) : Prop :=
  ∀ d < 16, hexDigit? (write d.digitChar) = some d

theorem writesDigits_id : WritesDigits id := by
  unfold WritesDigits
  decide

theorem writesDigits_toUpper : WritesDigits Char.toUpper := by
  unfold WritesDigits
  decide

/-- Digits read from left to right give the number back, for any reading of one digit that undoes
the writing of it. -/
theorem foldlM_toDigits {write : Char → Char} {read : Nat → Char → Option Nat}
    (h : ∀ n, ∀ d < 16, read n (write d.digitChar) = some (16 * n + d)) (n : Nat) :
    ((Nat.toDigits 16 n).map write).foldlM read 0 = some n := by
  induction n using Nat.strongRecOn with
  | ind n ih =>
    rw [Nat.toDigits_eq_if (by decide)]
    split
    · next hn => simp [h 0 n hn]
    · next hn =>
      have hq : n / 16 < n := Nat.div_lt_self (by omega) (by decide)
      have hr : n % 16 < 16 := Nat.mod_lt n (by decide)
      rw [List.map_append, List.foldlM_append, ih _ hq]
      simp [h _ _ hr, Nat.div_add_mod]

theorem hexValue?_toDigits {write : Char → Char} (h : WritesDigits write) (n : Nat) :
    hexValue? ((Nat.toDigits 16 n).map write) = some n :=
  foldlM_toDigits (fun n d hd => by simp [h d hd]) n

theorem hexValue?_hexLower (n : Nat) : hexValue? (hexLower n) = some n := by
  simpa [hexLower] using hexValue?_toDigits writesDigits_id n

theorem hexValue?_hexUpper (n : Nat) : hexValue? (hexUpper n) = some n :=
  hexValue?_toDigits writesDigits_toUpper n

/-- Of a text that denotes a number each character is a digit. -/
theorem hexDigit?_of_mem {digits : List Char} {n : Nat} (h : hexValue? digits = some n) {c : Char}
    (hc : c ∈ digits) : ∃ d, hexDigit? c = some d := by
  unfold hexValue? at h
  generalize 0 = start at h
  induction digits generalizing start with
  | nil => simp at hc
  | cons b digits ih =>
    rw [List.foldlM_cons, Option.bind_eq_bind, Option.bind_eq_some_iff] at h
    obtain ⟨next, hnext, h⟩ := h
    obtain ⟨d, hd, -⟩ := Option.map_eq_some_iff.1 hnext
    rcases List.mem_cons.1 hc with rfl | hc
    · exact ⟨d, hd⟩
    · exact ih hc next h

theorem hexDigit?_lt {c : Char} {d : Nat} (h : hexDigit? c = some d) : d < 16 := by
  unfold hexDigit? at h
  split_ifs at h with hdigit hlower hupper
  · have hle : c.toNat ≤ 57 := hdigit.2
    have hzero : '0'.toNat = 48 := rfl
    obtain rfl := Option.some.inj h
    omega
  · have hle : c.toNat ≤ 102 := hlower.2
    have ha : 'a'.toNat = 97 := rfl
    obtain rfl := Option.some.inj h
    omega
  · have hle : c.toNat ≤ 70 := hupper.2
    have ha : 'A'.toNat = 65 := rfl
    obtain rfl := Option.some.inj h
    omega

/-- Digits after a number add no more places than they are. -/
theorem foldlM_hexDigit_lt {digits : List Char} {m n : Nat}
    (h : digits.foldlM (fun n c => (hexDigit? c).map (16 * n + ·)) m = some n) :
    n < (m + 1) * Nat.pow 16 digits.length := by
  induction digits generalizing m with
  | nil =>
    obtain rfl := Option.some.inj h
    simp
  | cons c ds ih =>
    rw [List.foldlM_cons, Option.bind_eq_bind, Option.bind_eq_some_iff] at h
    obtain ⟨next, hnext, h⟩ := h
    obtain ⟨d, hd, rfl⟩ := Option.map_eq_some_iff.1 hnext
    have hlt := hexDigit?_lt hd
    calc n < (16 * m + d + 1) * Nat.pow 16 ds.length := ih h
      _ ≤ ((m + 1) * 16) * Nat.pow 16 ds.length := Nat.mul_le_mul_right _ (by omega)
      _ = (m + 1) * Nat.pow 16 (c :: ds).length := by
        rw [List.length_cons, Nat.mul_assoc, Nat.pow_eq, Nat.pow_eq, Nat.pow_succ, Nat.mul_comm 16]

/-- Digits denote a number with no more digits than they are. -/
theorem hexValue?_lt {digits : List Char} {n : Nat} (h : hexValue? digits = some n) :
    n < Nat.pow 16 digits.length := by
  have hlt := foldlM_hexDigit_lt h
  rwa [Nat.zero_add, Nat.one_mul] at hlt

theorem length_hexPadded {width n : Nat} (hw : 0 < width) (hn : n < Nat.pow 16 width) :
    (hexPadded width n).length = width := by
  have hle : (hexLower n).length ≤ width := (Nat.length_toDigits_le_iff (by decide) hw).2 hn
  rw [hexPadded, List.length_append, List.length_replicate]
  omega

/-- Leading zeros change nothing. -/
theorem hexValue?_hexPadded (width n : Nat) : hexValue? (hexPadded width n) = some n := by
  have hzeros (k : Nat) (s : List Char) : hexValue? (List.replicate k '0' ++ s) = hexValue? s := by
    induction k with
    | zero => rfl
    | succ k ih => rwa [List.replicate_succ]
  rw [hexPadded, hzeros, hexValue?_hexLower]

theorem hexUpper_injective {m n : Nat} (h : hexUpper m = hexUpper n) : m = n := by
  have hv := hexValue?_hexUpper m
  rw [h, hexValue?_hexUpper] at hv
  exact (Option.some.inj hv).symm

end EnumForge.Text

namespace EnumForge.Source

open EnumForge.Text

theorem digitsValue?_hexUpper (n : Nat) : digitsValue? 16 (hexUpper n) = some n := by
  refine foldlM_toDigits (fun n d hd => ?_) n
  have hread := writesDigits_toUpper d hd
  have hgap : (d.digitChar.toUpper = '_') = False := by
    have hfree : ∀ d < 16, d.digitChar.toUpper ≠ '_' := by decide
    exact eq_false (hfree d hd)
  simp [hread, hgap, hd]

/-- A number in generated code, read as a literal, is the number. -/
theorem wholeValue?_number (v : UInt64) :
    wholeValue? (Emit.Token.number v).render.toList = some v.toNat := by
  simp [Emit.Token.render, wholeValue?, digitsValue?_hexUpper]

end EnumForge.Source
