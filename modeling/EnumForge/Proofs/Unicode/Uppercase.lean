import EnumForge.Unicode.Uppercase

namespace EnumForge.Unicode

/-- A code point of a small ASCII letter. -/
def IsSmall (n : Nat) : Prop := 0x61 ≤ n ∧ n ≤ 0x7a

theorem not_isSmall_ofNat {n : Nat} (h : ¬ IsSmall n) : ¬ IsSmall (Char.ofNat n).toNat := by
  by_cases hvalid : n.isValidChar
  · have hchar : Char.ofNat n = Char.ofNatAux n hvalid := dif_pos hvalid
    rw [hchar]
    exact h
  · have hchar : Char.ofNat n = '\x00' := dif_neg hvalid
    rw [hchar]
    simp [IsSmall]

/-- A small ASCII letter stands 32 places after its capital. -/
theorem toNat_toUpper {c : Char} (h : IsSmall c.toNat) : c.toUpper.toNat = c.toNat - 0x20 := by
  have hsmall : 'a'.val ≤ c.val ∧ c.val ≤ 'z'.val := by
    rw [UInt32.le_iff_toNat_le, UInt32.le_iff_toNat_le]
    exact h
  have hcapital : c.toUpper = ⟨c.val + ('A'.val - 'a'.val), _⟩ := dif_pos hsmall
  have hshift : ('A'.val - 'a'.val).toNat = 2 ^ 32 - 0x20 := rfl
  have hbound : c.val.toNat < 2 ^ 32 := c.val.toNat_lt
  obtain ⟨hlo, hhi⟩ : 0x61 ≤ c.val.toNat ∧ c.val.toNat ≤ 0x7a := h
  rw [hcapital]
  change (c.val + ('A'.val - 'a'.val)).toNat = c.val.toNat - 0x20
  rw [UInt32.toNat_add, hshift]
  omega

theorem toUpper_eq_self {c : Char} (h : ¬ IsSmall c.toNat) : c.toUpper = c := by
  have hlarge : ¬ ('a'.val ≤ c.val ∧ c.val ≤ 'z'.val) := by
    rw [UInt32.le_iff_toNat_le, UInt32.le_iff_toNat_le]
    exact h
  exact dif_neg hlarge

/-! Characters that become several. -/

theorem caseExpansions_large :
    caseExpansions.all (fun e => Nat.blt 0x7f e.1 &&
      e.2.all fun n => Nat.blt n 0x61 || Nat.blt 0x7a n) = true := by
  decide +kernel

theorem not_isSmall_of_expansion {n m : Nat} {cs : List Nat}
    (h : caseExpansions.lookup n = some cs) (hm : m ∈ cs) : ¬ IsSmall m := by
  obtain ⟨before, after, hcut, -⟩ := List.lookup_eq_some_iff.1 h
  have hall := List.all_eq_true.1 caseExpansions_large (n, cs) (by simp [hcut])
  rw [Bool.and_eq_true, List.all_eq_true] at hall
  have hapart := hall.2 m hm
  rw [Bool.or_eq_true, Nat.blt_eq, Nat.blt_eq] at hapart
  unfold IsSmall
  omega

theorem lookup_caseExpansions_of_ascii {n : Nat} (h : n < 0x80) :
    caseExpansions.lookup n = none := by
  rw [List.lookup_eq_none_iff]
  intro e he
  have hall := List.all_eq_true.1 caseExpansions_large e he
  rw [Bool.and_eq_true, Nat.blt_eq] at hall
  have hne : n ≠ e.1 := by omega
  exact bne_iff_ne.2 hne

/-! Characters that become one. -/

theorem caseRuns_large :
    caseRuns.all (fun run =>
      (Nat.blt 0x7f run.first || (Nat.beq run.first 0x61 && Nat.beq run.last 0x7a)) &&
        (decide (run.last + run.shift < 0x61) || decide (0x7a < run.first + run.shift))) = true := by
  decide +kernel

theorem CaseRun.mem_iff (run : CaseRun) (n : Nat) :
    run.mem n = true ↔
      (run.first ≤ n ∧ n ≤ run.last) ∧ (n - run.first) % run.stride = 0 := by
  simp [CaseRun.mem]

theorem not_isSmall_of_run {n : Nat} {run : CaseRun} (hrun : run ∈ caseRuns)
    (h : run.mem n = true) : ¬ IsSmall (n + run.shift).toNat := by
  obtain ⟨-, hshift⟩ := Bool.and_eq_true_iff.1 (List.all_eq_true.1 caseRuns_large run hrun)
  rw [Bool.or_eq_true, decide_eq_true_eq, decide_eq_true_eq] at hshift
  obtain ⟨⟨hfirst, hlast⟩, -⟩ := (run.mem_iff n).1 h
  unfold IsSmall
  omega

/-- The first run is that of the small letters. -/
theorem find?_caseRuns_of_isSmall {n : Nat} (h : IsSmall n) :
    caseRuns.find? (·.mem n) = some ⟨0x61, 0x7a, 1, -32⟩ :=
  List.find?_cons_of_pos ((CaseRun.mem_iff _ n).2 ⟨h, Nat.mod_one _⟩)

theorem find?_caseRuns_of_ascii {n : Nat} (h : n < 0x80) (hlarge : ¬ IsSmall n) :
    caseRuns.find? (·.mem n) = none := by
  rw [List.find?_eq_none]
  intro run hrun hmem
  obtain ⟨hplace, -⟩ := Bool.and_eq_true_iff.1 (List.all_eq_true.1 caseRuns_large run hrun)
  rw [Bool.or_eq_true, Bool.and_eq_true, Nat.blt_eq, Nat.beq_eq, Nat.beq_eq] at hplace
  obtain ⟨⟨hfirst, hlast⟩, -⟩ := (run.mem_iff n).1 hmem
  unfold IsSmall at hlarge
  omega

theorem not_isSmall_of_mem_upper {c d : Char} (h : d ∈ upper c) : ¬ IsSmall d.toNat := by
  unfold upper at h
  split at h
  · next cs hcs =>
    obtain ⟨m, hm, rfl⟩ := List.mem_map.1 h
    exact not_isSmall_ofNat (not_isSmall_of_expansion hcs hm)
  · split at h
    · next run hrun =>
      obtain rfl := List.mem_singleton.1 h
      have hmem := List.find?_some hrun
      exact not_isSmall_ofNat (not_isSmall_of_run (List.mem_of_find?_eq_some hrun) hmem)
    · next hnone =>
      obtain rfl := List.mem_singleton.1 h
      intro hsmall
      exact absurd (find?_caseRuns_of_isSmall hsmall) (by simp [hnone])

theorem upper_of_ascii {c : Char} (h : c.toNat < 0x80) : upper c = [c.toUpper] := by
  rw [upper, lookup_caseExpansions_of_ascii h]
  by_cases hsmall : IsSmall c.toNat
  · have hcapital : ((c.toNat : Int) + -32).toNat = c.toUpper.toNat := by
      have hupper := toNat_toUpper hsmall
      omega
    rw [find?_caseRuns_of_isSmall hsmall]
    dsimp only
    rw [hcapital, Char.ofNat_toNat]
  · rw [find?_caseRuns_of_ascii h hsmall, toUpper_eq_self hsmall]

theorem not_isSmall_of_mem_uppercase {s : List Char} {c : Char} (h : c ∈ uppercase s) :
    ¬ IsSmall c.toNat := by
  obtain ⟨b, -, hc⟩ := List.mem_flatMap.1 h
  exact not_isSmall_of_mem_upper hc

theorem uppercase_of_ascii {s : List Char} (h : ∀ c ∈ s, c.toNat < 0x80) :
    uppercase s = s.map Char.toUpper := by
  induction s with
  | nil => rfl
  | cons c s ih =>
    obtain ⟨hc, hs⟩ := List.forall_mem_cons.1 h
    have htail : s.flatMap upper = s.map Char.toUpper := ih hs
    rw [uppercase, List.flatMap_cons, upper_of_ascii hc, htail]
    rfl

end EnumForge.Unicode
