import EnumForge.Proofs.Unicode.Identifier
import EnumForge.Unicode.Printable

namespace EnumForge.Unicode

/-- Code points of the general categories Cc, Zl and Zp. -/
def controlRanges : Ranges := [(0x0, 0x1f), (0x7f, 0x9f), (0x2028, 0x2029)]

/-- Whether the character ends a line or steers what shows it. -/
def isControl (c : Char) : Bool := controlRanges.mem c

theorem isControl_of_all {s : List Char} (hs : s.all (!isControl ·) = true) {c : Char}
    (h : c ∈ s) : isControl c = false := by
  simpa using List.all_eq_true.1 hs c h

/-- A set of characters each of whose ranges lies in a range of the other. -/
theorem Ranges.mem_of_within {a b : Ranges}
    (h : a.all (fun r => b.any fun q => Nat.ble q.1 r.1 && Nat.ble r.2 q.2) = true) {c : Char}
    (hc : a.mem c = true) : b.mem c = true := by
  obtain ⟨r, hr, hlo, hhi⟩ := (a.mem_iff c).1 hc
  obtain ⟨q, hq, hrange⟩ := List.any_eq_true.1 (List.all_eq_true.1 h r hr)
  rw [Bool.and_eq_true, Nat.ble_eq, Nat.ble_eq] at hrange
  exact (b.mem_iff c).2 ⟨q, hq, by omega, by omega⟩

theorem isControl_of_isPrintable {c : Char} (h : isPrintable c = true) : isControl c = false := by
  have hwithin : controlRanges.all (fun r => unprintableRanges.any fun q =>
      Nat.ble q.1 r.1 && Nat.ble r.2 q.2) = true := by decide +kernel
  rw [Bool.eq_false_iff]
  intro hcontrol
  simp [isPrintable, Ranges.mem_of_within hwithin hcontrol] at h

theorem xidRanges_apart_control :
    Ranges.Apart (xidStartRanges ++ xidContinueOnlyRanges) controlRanges :=
  Ranges.apart_of_all (by decide +kernel)

theorem isControl_of_isXidContinue {c : Char} (h : isXidContinue c = true) :
    isControl c = false := by
  rw [isXidContinue_eq_mem] at h
  exact Ranges.not_mem_of_apart xidRanges_apart_control h

theorem isControl_of_isAlphanum {c : Char} (h : c.isAlphanum = true) : isControl c = false :=
  isControl_of_isXidContinue (isXidContinue_of_isAlphanum h)

end EnumForge.Unicode
