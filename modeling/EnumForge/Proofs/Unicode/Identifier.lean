import EnumForge.Unicode.WhiteSpace
import EnumForge.Unicode.XidContinue

namespace EnumForge.Unicode

/-- Two sets of characters with no range that meets one of the other. -/
def Ranges.Apart (a b : Ranges) : Prop :=
  ∀ r ∈ a, ∀ q ∈ b, r.2 < q.1 ∨ q.2 < r.1

theorem Ranges.apart_of_all {a b : Ranges}
    (h : a.all (fun r => b.all fun q => Nat.blt r.2 q.1 || Nat.blt q.2 r.1) = true) :
    a.Apart b := by
  intro r hr q hq
  have hrq := List.all_eq_true.1 (List.all_eq_true.1 h r hr) q hq
  simpa [Nat.blt_eq] using hrq

theorem Ranges.not_mem_of_apart {a b : Ranges} (h : a.Apart b) {c : Char} (hc : a.mem c = true) :
    b.mem c = false := by
  rw [Bool.eq_false_iff]
  intro hb
  obtain ⟨r, hr, hr1, hr2⟩ := (a.mem_iff c).1 hc
  obtain ⟨q, hq, hq1, hq2⟩ := (b.mem_iff c).1 hb
  rcases h r hr q hq with hlt | hlt
  · omega
  · omega

/-- Ranges that begin beyond a character do not hold it. -/
theorem Ranges.mem_eq_filter (ranges : Ranges) {n : Nat} {c : Char} (h : c.toNat < n) :
    ranges.mem c = Ranges.mem (ranges.filter fun r => Nat.blt r.1 n) c := by
  rw [Bool.eq_iff_iff, mem_iff, mem_iff]
  simp only [List.mem_filter, Nat.blt_eq]
  constructor
  · rintro ⟨r, hr, hlo, hhi⟩
    exact ⟨r, ⟨hr, by omega⟩, hlo, hhi⟩
  · rintro ⟨r, ⟨hr, -⟩, hlo, hhi⟩
    exact ⟨r, hr, hlo, hhi⟩

theorem isXidContinue_eq_mem (c : Char) :
    isXidContinue c = Ranges.mem (xidStartRanges ++ xidContinueOnlyRanges) c := by
  rw [Ranges.mem, List.any_append]
  rfl

theorem xidRanges_apart_whiteSpace :
    Ranges.Apart (xidStartRanges ++ xidContinueOnlyRanges) whiteSpaceRanges :=
  Ranges.apart_of_all (by decide +kernel)

theorem isWhiteSpace_of_isXidContinue {c : Char} (h : isXidContinue c = true) :
    isWhiteSpace c = false := by
  rw [isXidContinue_eq_mem] at h
  exact Ranges.not_mem_of_apart xidRanges_apart_whiteSpace h

theorem xidStartRanges_ascii :
    xidStartRanges.filter (fun r => Nat.blt r.1 0x80) = [(0x41, 0x5a), (0x61, 0x7a)] := by
  decide +kernel

theorem xidContinueOnlyRanges_ascii :
    xidContinueOnlyRanges.filter (fun r => Nat.blt r.1 0x80) = [(0x30, 0x39), (0x5f, 0x5f)] := by
  decide +kernel

theorem isAlpha_iff (c : Char) :
    c.isAlpha = true ↔
      (0x41 ≤ c.toNat ∧ c.toNat ≤ 0x5a) ∨ (0x61 ≤ c.toNat ∧ c.toNat ≤ 0x7a) := by
  change (decide ('A'.val ≤ c.val ∧ c.val ≤ 'Z'.val) ||
    (decide ('a'.val ≤ c.val) && decide (c.val ≤ 'z'.val))) = true ↔ _
  simp only [Bool.or_eq_true, Bool.and_eq_true, decide_eq_true_eq, UInt32.le_iff_toNat_le]
  exact Iff.rfl

theorem isDigit_iff (c : Char) : c.isDigit = true ↔ 0x30 ≤ c.toNat ∧ c.toNat ≤ 0x39 := by
  change (decide ('0'.val ≤ c.val) && decide (c.val ≤ '9'.val)) = true ↔ _
  simp only [Bool.and_eq_true, decide_eq_true_eq, UInt32.le_iff_toNat_le]
  exact Iff.rfl

theorem isXidStart_eq_of_ascii {c : Char} (h : c.toNat < 0x80) : isXidStart c = c.isAlpha := by
  rw [isXidStart, Ranges.mem_eq_filter _ h, xidStartRanges_ascii, Bool.eq_iff_iff, isAlpha_iff]
  simp [Ranges.mem]

theorem isXidContinue_eq_of_ascii {c : Char} (h : c.toNat < 0x80) :
    isXidContinue c = (c.isAlphanum || c == '_') := by
  have hunderscore : (c == '_') = true ↔ c.toNat = 0x5f := by
    rw [beq_iff_eq]
    exact Char.toNat_inj.symm
  change _ = ((c.isAlpha || c.isDigit) || c == '_')
  rw [isXidContinue, isXidStart_eq_of_ascii h, Ranges.mem_eq_filter _ h,
    xidContinueOnlyRanges_ascii, Bool.or_assoc]
  congr 1
  rw [Bool.eq_iff_iff, Bool.or_eq_true, hunderscore, isDigit_iff, Nat.eq_iff_le_and_ge]
  simp [Ranges.mem, and_comm]

theorem isXidContinue_of_isAlphanum {c : Char} (h : c.isAlphanum = true) :
    isXidContinue c = true := by
  have hascii : c.toNat < 0x80 := by
    change (c.isAlpha || c.isDigit) = true at h
    rw [Bool.or_eq_true, isAlpha_iff, isDigit_iff] at h
    omega
  rw [isXidContinue_eq_of_ascii hascii, h]
  rfl

end EnumForge.Unicode
