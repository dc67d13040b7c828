import EnumForge.Proofs.Table.Family
import Mathlib.Data.List.Dedup
import Mathlib.Data.List.Infix

namespace EnumForge.Family

/-! Neighbours that share a value. -/

theorem infix_of_mem_sharedNeighbours {ms : List Member} {a b : Member}
    (h : (a, b) ∈ sharedNeighbours ms) : [a, b] <:+: ms ∧ a.value = b.value := by
  fun_induction sharedNeighbours ms with
  | case1 c d rest hcd ih =>
    rcases List.mem_cons.1 h with heq | h
    · obtain ⟨rfl, rfl⟩ := Prod.mk.inj heq
      exact ⟨⟨[], rest, rfl⟩, hcd⟩
    · exact ⟨List.infix_cons (ih h).1, (ih h).2⟩
  | case2 c d rest _ ih => exact ⟨List.infix_cons (ih h).1, (ih h).2⟩
  | case3 => simp at h

/-- Of two neighbours that share a value, the first stands before the second. -/
theorem sublist_of_mem_sharedNeighbours {ms : List Member} {a b : Member}
    (h : (a, b) ∈ sharedNeighbours ms) : [a, b].Sublist ms ∧ a.value = b.value :=
  (infix_of_mem_sharedNeighbours h).imp_left List.IsInfix.sublist

/-- Of two members of a list, one stands before the other. -/
theorem pair_sublist_of_mem {ms : List Member} {a b : Member} (ha : a ∈ ms) (hb : b ∈ ms)
    (hab : a ≠ b) : [a, b].Sublist ms ∨ [b, a].Sublist ms := by
  induction ms with
  | nil => simp at ha
  | cons m ms ih =>
    rcases List.mem_cons.1 ha with rfl | ha'
    · have hb' := List.mem_of_ne_of_mem hab.symm hb
      exact .inl (.cons_cons _ (List.singleton_sublist.2 hb'))
    · rcases List.mem_cons.1 hb with rfl | hb'
      · exact .inr (.cons_cons _ (List.singleton_sublist.2 ha'))
      · exact (ih ha' hb').imp (.cons _) (.cons _)

section

variable {ms : List Member} (h : ms.Pairwise (fun a b => a.le b = true))

include h

/-- A member that comes after another one of its value is the second of two neighbours. -/
theorem exists_mem_sharedNeighbours {n m : Member} (hnm : [n, m].Sublist ms)
    (hv : n.value = m.value) : ∃ a, (a, m) ∈ sharedNeighbours ms := by
  -- between the two there are only members of their value, and `m` follows the last of them
  fun_induction sharedNeighbours ms generalizing n with
  | case1 a b rest hab ih =>
    have hrest := (List.pairwise_cons.1 h).2
    rcases List.sublist_cons_iff.1 hnm with hnm | ⟨r, hr, hm⟩
    · obtain ⟨c, hc⟩ := ih hrest hnm hv
      exact ⟨c, List.mem_cons_of_mem _ hc⟩
    · obtain ⟨rfl, rfl⟩ := List.cons.inj hr
      rcases List.mem_cons.1 (List.singleton_sublist.1 hm) with rfl | hm
      · exact ⟨n, List.mem_cons_self⟩
      · obtain ⟨c, hc⟩ := ih hrest (.cons_cons b (List.singleton_sublist.2 hm)) (hab.symm.trans hv)
        exact ⟨c, List.mem_cons_of_mem _ hc⟩
  | case2 a b rest hab ih =>
    rcases List.sublist_cons_iff.1 hnm with hnm | ⟨r, hr, hm⟩
    · exact ih (List.pairwise_cons.1 h).2 hnm hv
    · obtain ⟨rfl, rfl⟩ := List.cons.inj hr
      have hlt := Member.value_lt_of_head_ne h hab m (List.singleton_sublist.1 hm)
      exact absurd hv (UInt64.ne_of_lt hlt)
  | case3 ms hne =>
    obtain rfl | ⟨a, rfl⟩ := Member.eq_nil_or_singleton hne
    · simp at hnm
    · simpa using hnm.length_le

/-- There is a pair for each member beyond the first of its value. -/
theorem length_sharedNeighbours :
    (sharedNeighbours ms).length + (ms.map Member.value).dedup.length = ms.length := by
  fun_induction sharedNeighbours ms with
  | case1 a b rest hab ih =>
    have hmem : a.value ∈ (b :: rest).map Member.value := by simp [hab]
    have hcount := ih (List.pairwise_cons.1 h).2
    rw [List.map_cons, List.dedup_cons_of_mem hmem, List.length_cons, List.length_cons, ← hcount]
    omega
  | case2 a b rest hab ih =>
    have hfree : a.value ∉ (b :: rest).map Member.value := by
      rw [List.mem_map]
      rintro ⟨m, hm, hvalue⟩
      exact UInt64.ne_of_lt (Member.value_lt_of_head_ne h hab m hm) hvalue.symm
    have hcount := ih (List.pairwise_cons.1 h).2
    rw [List.map_cons, List.dedup_cons_of_notMem hfree, List.length_cons, List.length_cons,
      ← hcount]
    omega
  | case3 ms hne =>
    obtain rfl | ⟨a, rfl⟩ := Member.eq_nil_or_singleton hne
    · rfl
    · rfl

/-- Values that are all different are different for neighbours. -/
theorem sharedNeighbours_eq_nil_iff :
    sharedNeighbours ms = [] ↔ (ms.map Member.value).Nodup := by
  have hcount := length_sharedNeighbours h
  rw [← List.length_eq_zero_iff, ← List.dedup_eq_self]
  constructor
  · intro hnone
    apply (List.dedup_sublist _).eq_of_length
    rw [List.length_map]
    omega
  · intro hself
    rw [hself, List.length_map] at hcount
    omega

/-- The pairs of a value lead from each member of the value to the next. -/
theorem filter_sharedNeighbours (v : UInt64) :
    (sharedNeighbours ms).filter (·.1.value = v) =
      (ms.filter (·.value = v)).consecutivePairs := by
  fun_induction sharedNeighbours ms with
  | case1 a b rest hab ih =>
    have hpairs := ih (List.pairwise_cons.1 h).2
    by_cases hv : a.value = v
    · have hb : b.value = v := hab.symm.trans hv
      simpa [hv, hb, List.consecutivePairs] using hpairs
    · have hb : b.value ≠ v := fun hb => hv (hab.trans hb)
      simpa [hv, hb] using hpairs
  | case2 a b rest hab ih =>
    have hpairs := ih (List.pairwise_cons.1 h).2
    by_cases hv : a.value = v
    · -- the first member is the last of its value, so it leads to no other one
      have hnone : (b :: rest).filter (·.value = v) = [] := by
        refine List.filter_eq_nil_iff.2 fun m hm => ?_
        have hlt := Member.value_lt_of_head_ne h hab m hm
        simpa [← hv] using (UInt64.ne_of_lt hlt).symm
      rw [List.filter_cons, if_pos (by simpa using hv), hpairs, hnone]
      rfl
    · rw [List.filter_cons, if_neg (by simpa using hv), hpairs]
  | case3 ms hne =>
    obtain rfl | ⟨a, rfl⟩ := Member.eq_nil_or_singleton hne
    · rfl
    · by_cases hv : a.value = v <;> simp [hv]

end

/-! Aliases of the members that a family was made of. -/

theorem pairwise_mergeSort_label (ms : List Member) :
    (ms.mergeSort fun a b => a.label ≤ b.label).Pairwise fun a b => a.label ≤ b.label := by
  have htrans (a b c : Member) (hab : decide (a.label ≤ b.label) = true)
      (hbc : decide (b.label ≤ c.label) = true) : decide (a.label ≤ c.label) = true :=
    decide_eq_true (String.le_trans (of_decide_eq_true hab) (of_decide_eq_true hbc))
  have htotal (a b : Member) :
      (decide (a.label ≤ b.label) || decide (b.label ≤ a.label)) = true := by
    simpa using String.le_total a.label b.label
  exact (List.pairwise_mergeSort htrans htotal ms).imp of_decide_eq_true

/-- The members of one value stand in order of label. -/
theorem filter_members_ofMembers (name : String) (ms : List Member) (v : UInt64) :
    (ofMembers name ms).members.filter (·.value = v) =
      (ms.filter (·.value = v)).mergeSort fun a b => a.label ≤ b.label := by
  have hperm : ((ofMembers name ms).members.filter (·.value = v)).Perm
      ((ms.filter (·.value = v)).mergeSort fun a b => a.label ≤ b.label) :=
    ((members_ofMembers_perm name ms).filter _).trans (List.mergeSort_perm _ _).symm
  have hvalue {m : Member} (hm : m ∈ (ofMembers name ms).members.filter (·.value = v)) :
      m.value = v := by
    simpa using (List.mem_filter.1 hm).2
  have hmembers : ((ofMembers name ms).members.filter (·.value = v)).Pairwise
      fun a b => a.label ≤ b.label := by
    refine List.Pairwise.imp_of_mem ?_ ((ofMembers name ms).sorted.filter _)
    intro a b ha hb hab
    exact Member.label_le_of_le hab ((hvalue ha).trans (hvalue hb).symm)
  refine hperm.eq_of_pairwise ?_ hmembers (pairwise_mergeSort_label _)
  intro a b ha hb hab hba
  have hv : a.value = b.value := (hvalue ha).trans (hvalue (hperm.mem_iff.2 hb)).symm
  exact Member.le_antisymm ((Member.le_iff a b).2 (.inr ⟨hv, hab⟩))
    ((Member.le_iff b a).2 (.inr ⟨hv.symm, hba⟩))

/-- The aliases of a family are as many as its members beyond the first of each value. Each is a pair
of members that share a value and stand side by side in order; those of one value lead through all
its members in order of label, and there are none exactly when no value is shared. -/
theorem aliases_link_shared (name : String) (ms : List Member) :
    (ofMembers name ms).aliases.length + (ms.map Member.value).dedup.length = ms.length ∧
    (∀ a b, (a, b) ∈ (ofMembers name ms).aliases →
      [a, b] <:+: ms.mergeSort Member.le ∧ a.value = b.value ∧ a.label ≤ b.label) ∧
    (∀ v, (ofMembers name ms).aliases.filter (·.1.value = v) =
        ((ms.filter (·.value = v)).mergeSort fun a b => a.label ≤ b.label).consecutivePairs ∧
      ((ofMembers name ms).aliases.filter (·.1.value = v)).length =
        ms.countP (·.value = v) - 1) ∧
    ((ofMembers name ms).aliases = [] ↔ (ms.map Member.value).Nodup) := by
  have hsorted := (ofMembers name ms).sorted
  have hperm := members_ofMembers_perm name ms
  have hvalues := hperm.map Member.value
  refine ⟨?_, ?_, ?_, ?_⟩
  · rw [← hvalues.dedup.length_eq, ← hperm.length_eq]
    exact length_sharedNeighbours hsorted
  · intro a b hab
    obtain ⟨hadjacent, hvalue⟩ := infix_of_mem_sharedNeighbours hab
    have hle := List.pairwise_iff_forall_sublist.1 hsorted hadjacent.sublist
    exact ⟨hadjacent, hvalue, Member.label_le_of_le hle hvalue⟩
  · intro v
    have hpairs := filter_sharedNeighbours hsorted v
    rw [filter_members_ofMembers] at hpairs
    refine ⟨hpairs, ?_⟩
    rw [aliases, hpairs, List.length_zip, List.length_tail, List.length_mergeSort,
      List.countP_eq_length_filter]
    omega
  · rw [← hvalues.nodup_iff]
    exact sharedNeighbours_eq_nil_iff hsorted

/-- Members in no order. Four of them share a value, and two of these are the same. -/
def mixedKinds : List Member :=
  [⟨"Zulu", 1⟩, ⟨"Last", 2⟩, ⟨"Alpha", 1⟩, ⟨"First", 0⟩, ⟨"Zulu", 1⟩, ⟨"Mike", 1⟩, ⟨"Final", 2⟩]

theorem aliases_mixedKinds : (ofMembers "Kind" mixedKinds).aliases =
    [(⟨"Alpha", 1⟩, ⟨"Mike", 1⟩), (⟨"Mike", 1⟩, ⟨"Zulu", 1⟩), (⟨"Zulu", 1⟩, ⟨"Zulu", 1⟩),
      (⟨"Final", 2⟩, ⟨"Last", 2⟩)] := by
  have hfamily : ofMembers "Kind" mixedKinds =
      ⟨"Kind", [⟨"First", 0⟩, ⟨"Alpha", 1⟩, ⟨"Mike", 1⟩, ⟨"Zulu", 1⟩, ⟨"Zulu", 1⟩, ⟨"Final", 2⟩,
        ⟨"Last", 2⟩], by decide⟩ :=
    ofMembers_eq_of_ordered "Kind" (by decide) _
  rw [hfamily]
  decide

/-- Three values among seven members leave four pairs, one of them of two members that are the
same. -/
theorem mixedKinds_linked :
    (mixedKinds.map Member.value).dedup.length = 3 ∧
      (⟨"Zulu", 1⟩, ⟨"Zulu", 1⟩) ∈ (ofMembers "Kind" mixedKinds).aliases ∧
      [⟨"Zulu", 1⟩, ⟨"Zulu", 1⟩] <:+: mixedKinds.mergeSort Member.le ∧
      (ofMembers "Kind" mixedKinds).aliases.filter (·.1.value = 1) =
        ((mixedKinds.filter (·.value = 1)).mergeSort fun a b =>
          a.label ≤ b.label).consecutivePairs := by
  have hzulu : (⟨"Zulu", 1⟩, ⟨"Zulu", 1⟩) ∈ (ofMembers "Kind" mixedKinds).aliases := by
    simp [aliases_mixedKinds]
  obtain ⟨hcount, hadjacent, hchain, -⟩ := aliases_link_shared "Kind" mixedKinds
  rw [aliases_mixedKinds] at hcount
  exact ⟨Nat.add_left_cancel hcount, hzulu, (hadjacent _ _ hzulu).1, (hchain 1).1⟩

end EnumForge.Family
