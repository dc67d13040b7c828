import EnumForge.Proofs.Generation
import EnumForge.Proofs.Table.Family
import EnumForge.Proofs.Table.Keys
import EnumForge.Proofs.Text.ByteOrder
import EnumForge.Proofs.Text.Hexadecimal

namespace EnumForge

open Emit Text

/-! The last member of each value. -/

theorem lastOfValue_sublist (ms : List Member) : (lastOfValue ms).Sublist ms := by
  fun_induction lastOfValue ms with
  | case1 a b rest _ ih => exact ih.cons _
  | case2 a b rest _ ih => exact ih.cons_cons _
  | case3 rest => exact .refl _

/-- The values of the arms ascend, so no two arms share one. -/
theorem lastOfValue_ascending {ms : List Member} (h : ms.Pairwise (fun a b => a.le b = true)) :
    (lastOfValue ms).Pairwise (fun a b => a.value < b.value) := by
  fun_induction lastOfValue ms with
  | case1 a b rest _ ih => exact ih (List.pairwise_cons.1 h).2
  | case2 a b rest hab ih =>
    refine List.pairwise_cons.2 ⟨fun m hm => ?_, ih (List.pairwise_cons.1 h).2⟩
    exact Member.value_lt_of_head_ne h hab m ((lastOfValue_sublist _).mem hm)
  | case3 ms hne =>
    obtain rfl | ⟨a, rfl⟩ := Member.eq_nil_or_singleton hne
    · exact .nil
    · exact List.pairwise_singleton _ _

/-- Each member has an arm of its value, whose label is not smaller. -/
theorem exists_mem_lastOfValue {ms : List Member} (h : ms.Pairwise (fun a b => a.le b = true)) :
    ∀ n ∈ ms, ∃ m ∈ lastOfValue ms, m.value = n.value ∧ n.label ≤ m.label := by
  fun_induction lastOfValue ms with
  | case1 a b rest hab ih =>
    intro n hn
    obtain ⟨ha, hrest⟩ := List.pairwise_cons.1 h
    rcases List.mem_cons.1 hn with rfl | hn
    · obtain ⟨m, hm, hv, hl⟩ := ih hrest b (by simp)
      have hb : n.label ≤ b.label := Member.label_le_of_le (ha b (by simp)) hab
      exact ⟨m, hm, hv.trans hab.symm, String.le_trans hb hl⟩
    · exact ih hrest n hn
  | case2 a b rest _ ih =>
    intro n hn
    rcases List.mem_cons.1 hn with rfl | hn
    · exact ⟨n, by simp, rfl, String.le_refl _⟩
    · obtain ⟨m, hm, hv, hl⟩ := ih (List.pairwise_cons.1 h).2 n hn
      exact ⟨m, List.mem_cons_of_mem _ hm, hv, hl⟩
  | case3 rest _ => exact fun n hn => ⟨n, hn, rfl, String.le_refl _⟩

theorem nodup_values_lastOfValue {ms : List Member} (h : ms.Pairwise (fun a b => a.le b = true)) :
    ((lastOfValue ms).map Member.value).Nodup :=
  List.pairwise_map.2 ((lastOfValue_ascending h).imp UInt64.ne_of_lt)

/-- A member whose label no member of its value exceeds. -/
def Family.Greatest (f : Family) (v : UInt64) (l : String) : Prop :=
  ⟨l, v⟩ ∈ f.members ∧ ∀ m ∈ f.members, m.value = v → utf8 m.label.toList ≤ utf8 l.toList

theorem Family.mem_lastOfValue_iff (f : Family) (m : Member) :
    m ∈ lastOfValue f.members ↔ f.Greatest m.value m.label := by
  constructor
  · intro hm
    refine ⟨(lastOfValue_sublist _).mem hm, fun n hn hv => ?_⟩
    obtain ⟨k, hk, hkv, hkl⟩ := exists_mem_lastOfValue f.sorted n hn
    have hmk : m = k := List.inj_on_of_nodup_map (nodup_values_lastOfValue f.sorted) hm hk
      (hv.symm.trans hkv.symm)
    rw [hmk, utf8_le_iff]
    exact hkl
  · rintro ⟨hm, hgreatest⟩
    obtain ⟨k, hk, hkv, hkl⟩ := exists_mem_lastOfValue f.sorted m hm
    have hkm := hgreatest k ((lastOfValue_sublist _).mem hk) hkv
    have hlabel : k.label = m.label := String.le_antisymm ((utf8_le_iff _ _).1 hkm) hkl
    have : k = m := by
      cases k
      cases m
      simp_all
    exact this ▸ hk

/-! Look-ups in the code of one family. -/

namespace Family

variable (width : Width) (f : Family)

theorem nodup_nameArms : ((f.code width).nameArms.map (·.1)).Nodup := by
  have h := nodup_values_lastOfValue f.sorted
  simpa [code, Function.comp_def] using h

theorem name?_eq_some_iff (v : UInt64) (l : String) :
    (f.code width).name? v = some l ↔ f.Greatest v l := by
  rw [FamilyCode.name?, lookup_eq_some_iff_mem (f.nodup_nameArms width)]
  refine Iff.trans ?_ (f.mem_lastOfValue_iff ⟨l, v⟩)
  simp only [code, List.mem_map, Prod.mk.injEq]
  constructor
  · rintro ⟨⟨k, w⟩, hm, rfl, rfl⟩
    exact hm
  · exact fun hm => ⟨_, hm, rfl, rfl⟩

theorem exists_greatest {m : Member} (hm : m ∈ f.members) : ∃ l, f.Greatest m.value l := by
  obtain ⟨k, hk, hv, -⟩ := exists_mem_lastOfValue f.sorted m hm
  exact ⟨k.label, hv ▸ (f.mem_lastOfValue_iff k).1 hk⟩

theorem name?_eq_none_iff (v : UInt64) :
    (f.code width).name? v = none ↔ ∀ m ∈ f.members, m.value ≠ v := by
  rw [Option.eq_none_iff_forall_ne_some]
  constructor
  · rintro h m hm rfl
    obtain ⟨l, hl⟩ := f.exists_greatest hm
    exact h l ((f.name?_eq_some_iff width _ l).2 hl)
  · intro h l hl
    exact h ⟨l, v⟩ ((f.name?_eq_some_iff width v l).1 hl).1 rfl

theorem fromName?_eq_some_iff (hc : (f.members.map (Member.constant f.name)).Nodup)
    (hl : (f.members.map Member.label).Nodup) (s : String) (v : UInt64) :
    (f.code width).fromName? s = some v ↔ ⟨s, v⟩ ∈ f.members := by
  have harms : ((f.code width).fromNameArms.map (·.1)).Nodup := by
    simpa [code, Function.comp_def] using hl
  have hconst : ((f.code width).constants.map (·.1)).Nodup := by
    simpa [code, Function.comp_def] using hc
  simp only [FamilyCode.fromName?, Option.bind_eq_some_iff, lookup_eq_some_iff_mem harms,
    lookup_eq_some_iff_mem hconst]
  simp only [code, List.mem_map, Prod.mk.injEq]
  constructor
  · rintro ⟨_, ⟨m, hm, rfl, rfl⟩, n, hn, hmn, rfl⟩
    have hmn : n = m := List.inj_on_of_nodup_map hc hn hm hmn
    exact hmn ▸ hm
  · exact fun hm => ⟨_, ⟨_, hm, rfl, rfl⟩, _, hm, rfl, rfl⟩

theorem fromName?_eq_none_iff (hc : (f.members.map (Member.constant f.name)).Nodup)
    (hl : (f.members.map Member.label).Nodup) (s : String) :
    (f.code width).fromName? s = none ↔ ∀ m ∈ f.members, m.label ≠ s := by
  rw [Option.eq_none_iff_forall_ne_some]
  constructor
  · rintro h m hm rfl
    exact h m.value ((f.fromName?_eq_some_iff width hc hl _ _).2 hm)
  · intro h v hv
    exact h ⟨s, v⟩ ((f.fromName?_eq_some_iff width hc hl s v).1 hv) rfl

end Family

end EnumForge
