import EnumForge.Table.Family
import Mathlib.Data.List.Sort

namespace EnumForge

theorem Member.value_le_of_le {a b : Member} (h : a.le b = true) : a.value ≤ b.value := by
  rcases (Member.le_iff a b).1 h with hlt | ⟨heq, -⟩
  · exact UInt64.le_of_lt hlt
  · exact heq ▸ UInt64.le_refl _

theorem Member.label_le_of_le {a b : Member} (h : a.le b = true) (hv : a.value = b.value) :
    a.label ≤ b.label := by
  rcases (Member.le_iff a b).1 h with hlt | ⟨-, hl⟩
  · exact absurd (hv ▸ hlt) (UInt64.lt_irrefl _)
  · exact hl

theorem Member.le_antisymm {a b : Member} (hab : a.le b = true) (hba : b.le a = true) : a = b := by
  have hvalue : a.value = b.value :=
    UInt64.le_antisymm (value_le_of_le hab) (value_le_of_le hba)
  have hlabel : a.label = b.label :=
    String.le_antisymm (label_le_of_le hab hvalue) (label_le_of_le hba hvalue.symm)
  cases a
  cases b
  simp_all

/-- Where the first two members in order differ in value, the first value is below all others. -/
theorem Member.value_lt_of_head_ne {a b : Member} {rest : List Member}
    (h : (a :: b :: rest).Pairwise (fun a b => a.le b = true)) (hab : a.value ≠ b.value) :
    ∀ m ∈ b :: rest, a.value < m.value := by
  obtain ⟨ha, hrest⟩ := List.pairwise_cons.1 h
  have hlt : a.value < b.value :=
    UInt64.lt_of_le_of_ne (value_le_of_le (ha b (by simp))) hab
  intro m hm
  rcases List.mem_cons.1 hm with rfl | hm
  · exact hlt
  · have hbm := (List.pairwise_cons.1 hrest).1 m hm
    exact UInt64.lt_of_lt_of_le hlt (value_le_of_le hbm)

/-- Where no two members stand side by side, there is at most one. -/
theorem Member.eq_nil_or_singleton {ms : List Member}
    (h : ∀ a b rest, ms = a :: b :: rest → False) : ms = [] ∨ ∃ a, ms = [a] := by
  cases ms with
  | nil => exact .inl rfl
  | cons a rest =>
    cases rest with
    | nil => exact .inr ⟨a, rfl⟩
    | cons b rest => exact (h a b rest rfl).elim

namespace Family

/-- A family is made of its members, in whatever order they were given. -/
theorem ofMembers_eq_of_perm {ms ns : List Member} (name : String) (h : ms.Perm ns) :
    ofMembers name ms = ofMembers name ns := by
  have hperm : (ofMembers name ms).members.Perm (ofMembers name ns).members :=
    ((members_ofMembers_perm name ms).trans h).trans (members_ofMembers_perm name ns).symm
  have hmembers : (ofMembers name ms).members = (ofMembers name ns).members :=
    hperm.eq_of_pairwise (fun a b _ _ => Member.le_antisymm) (ofMembers name ms).sorted
      (ofMembers name ns).sorted
  simpa [ofMembers] using hmembers

/-- A family is known by its members in order. -/
theorem ofMembers_eq_of_ordered {ms ns : List Member} (name : String) (hperm : ms.Perm ns)
    (h : ns.Pairwise (fun a b => a.le b = true)) : ofMembers name ms = ⟨name, ns, h⟩ := by
  rw [ofMembers_eq_of_perm name hperm]
  simp only [ofMembers, List.mergeSort_of_pairwise h]

end Family

end EnumForge
