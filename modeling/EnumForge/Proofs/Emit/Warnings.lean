import EnumForge.Proofs.Emit.Lookup
import EnumForge.Proofs.Table.Aliases
import EnumForge.Proofs.Table.Library
import EnumForge.Value.Text

namespace EnumForge

open Text

/-! The warnings that validation gives. -/

/-- What is said of two members of a family that share a value. -/
def Family.sharedWarning (f : Family) (pair : Member × Member) : Warning :=
  .sharedValue f.name pair.1.value pair.1.label pair.2.label

theorem warnings_checkAliases {options : Options} {f : Family} {pairs : List (Member × Member)}
    {u : Unit} (h : (checkAliases options f.name pairs).result = .ok u) :
    (checkAliases options f.name pairs).warnings = pairs.map f.sharedWarning := by
  induction pairs with
  | nil => rfl
  | cons pair pairs ih =>
    obtain ⟨_, halias, hrest⟩ := (Checked.result_bind_eq_ok_iff _ _ _).1 h
    have hallowed := (checkAlias_eq_ok_iff options f.name pair _).1 halias
    have hwarn : (checkAlias options f.name pair).warnings = [f.sharedWarning pair] := by
      rw [checkAlias, if_pos hallowed]
      rfl
    rw [checkAliases, Checked.warnings_bind_of_ok halias, hwarn, ih hrest]
    rfl

theorem warnings_checkFamily {options : Options} {claims after : Claims} {f : Family}
    (h : (checkFamily options claims f).result = .ok after) :
    (checkFamily options claims f).warnings = f.aliases.map f.sharedWarning := by
  obtain ⟨_, hmembers, h⟩ := (Checked.result_bind_eq_ok_iff _ _ _).1 h
  obtain ⟨_, haliases, -⟩ := (Checked.result_bind_eq_ok_iff _ _ _).1 h
  rw [checkFamily, Checked.warnings_bind_of_ok hmembers, Checked.warnings_bind_of_ok haliases,
    warnings_checkAliases haliases]
  simp

theorem warnings_checkFamilies {options : Options} {claims after : Claims} {fs : List Family}
    (h : (checkFamilies options claims fs).result = .ok after) :
    (checkFamilies options claims fs).warnings =
      fs.flatMap fun f => f.aliases.map f.sharedWarning := by
  induction fs generalizing claims with
  | nil => rfl
  | cons f fs ih =>
    obtain ⟨_, hfamily, hrest⟩ := (Checked.result_bind_eq_ok_iff _ _ _).1 h
    rw [checkFamilies, Checked.warnings_bind_of_ok hfamily, warnings_checkFamily hfamily, ih hrest,
      List.flatMap_cons]

/-- A library that is accepted has one warning for each pair of neighbours with one value. -/
theorem warnings_validate {library : Library} {options : Options}
    (h : (validate library options).result = .ok ()) :
    (validate library options).warnings =
      library.families.flatMap fun f => f.aliases.map f.sharedWarning := by
  obtain ⟨_, hfamilies, -⟩ := (Checked.result_bind_eq_ok_iff _ _ _).1 h
  rw [validate, Checked.warnings_bind_of_ok hfamilies, warnings_checkFamilies hfamilies]
  simp

/-! What a warning says. -/

/-- The label that a warning takes for the one that is shown is the one that the code of the family
names the value by and shows it by. -/
def Warning.IsTrue (library : Library) (width : Width) : Warning → Prop
  | .sharedValue family value _ preferred => ∃ f, library.get? family = some f ∧
      (f.code width).name? value = some preferred ∧ (f.code width).display value = preferred
  | _ => True

theorem isTrue_sharedValue_iff {library : Library} {f : Family} (hf : f ∈ library.families)
    (width : Width) (v : UInt64) (first preferred : String) :
    (Warning.sharedValue f.name v first preferred).IsTrue library width ↔
      f.Greatest v preferred := by
  rw [Warning.IsTrue, (library.mem_families_iff f).1 hf]
  constructor
  · rintro ⟨g, hg, hname, -⟩
    rw [← Option.some.inj hg] at hname
    exact (f.name?_eq_some_iff width v preferred).1 hname
  · intro h
    have hname := (f.name?_eq_some_iff width v preferred).2 h
    exact ⟨f, rfl, hname, FamilyCode.display_of_name? hname⟩

namespace Family

variable {f : Family}

/-- How many members have a value. -/
def shares (f : Family) (v : UInt64) : Nat := f.members.countP (·.value = v)

theorem exists_sublist_of_shares {n : Nat} {v : UInt64} (h : n ≤ f.shares v) :
    ∃ ms : List Member, ms.length = n ∧ ms.Sublist f.members ∧ ∀ m ∈ ms, m.value = v := by
  rw [shares, List.countP_eq_length_filter] at h
  refine ⟨(f.members.filter (·.value = v)).take n, List.length_take_of_le h,
    (List.take_sublist _ _).trans List.filter_sublist, ?_⟩
  intro m hm
  simpa using (List.mem_filter.1 (List.mem_of_mem_take hm)).2

/-- The greatest label of a value that is shared comes second in a pair. -/
theorem exists_alias_of_greatest (hnodup : f.members.Nodup) {v : UInt64} {l : String}
    (h : f.Greatest v l) (hshares : 2 ≤ f.shares v) : ∃ a, (a, ⟨l, v⟩) ∈ f.aliases := by
  obtain ⟨ms, hlength, hms, hvalue⟩ := exists_sublist_of_shares hshares
  obtain ⟨x, y, rfl⟩ := List.length_eq_two.1 hlength
  have hxy : x ≠ y := by simpa using hnodup.sublist hms
  obtain ⟨m, hm, hne⟩ : ∃ m ∈ [x, y], m ≠ ⟨l, v⟩ := by
    by_cases hx : x = ⟨l, v⟩
    · exact ⟨y, by simp, hx ▸ hxy.symm⟩
    · exact ⟨x, by simp, hx⟩
  refine exists_mem_sharedNeighbours f.sorted (n := m) ?_ (hvalue m hm)
  rcases pair_sublist_of_mem (hms.mem hm) h.1 hne with hpair | hpair
  · exact hpair
  · have hle : m.le ⟨l, v⟩ = true := (Member.le_iff _ _).2
      (.inr ⟨hvalue m hm, (utf8_le_iff _ _).1 (h.2 m (hms.mem hm) (hvalue m hm))⟩)
    have hback := List.pairwise_iff_forall_sublist.1 f.sorted hpair
    exact absurd (Member.le_antisymm hle hback) hne

/-- Where no third member has its value, the second label of a pair is the greatest. -/
theorem greatest_of_mem_aliases {a b : Member} (hnodup : f.members.Nodup)
    (h : (a, b) ∈ f.aliases) (hshares : f.shares a.value ≤ 2) : f.Greatest a.value b.label := by
  obtain ⟨hab, hv⟩ := sublist_of_mem_sharedNeighbours h
  have hle := List.pairwise_iff_forall_sublist.1 f.sorted hab
  have hb : b ∈ f.members := hab.mem (by simp)
  refine ⟨hv ▸ hb, ?_⟩
  intro m hm hmv
  rw [utf8_le_iff]
  by_contra hlt
  have hmb : m ≠ b := by
    rintro rfl
    exact hlt (String.le_refl _)
  have hma : m ≠ a := by
    rintro rfl
    exact hlt (Member.label_le_of_le hle hv)
  have hthree : [m, a, b].Nodup := by
    simp [hmb, hma, (List.nodup_cons.1 (hnodup.sublist hab)).1]
  have hall : [m, a, b] ⊆ f.members.filter (·.value = a.value) := by
    have ha : a ∈ f.members := hab.mem (by simp)
    simp [List.subset_def, hm, hmv, ha, hb, hv]
  have hcount := hthree.length_le_of_subset hall
  rw [← List.countP_eq_length_filter] at hcount
  exact absurd hcount (Nat.not_le.2 (Nat.lt_succ_of_le hshares))

/-- Of three members with one value, the second comes second in a pair and is not the greatest. -/
theorem exists_alias_not_greatest (hnodup : f.members.Nodup) {v : UInt64} (h : 2 < f.shares v) :
    ∃ a b, (a, b) ∈ f.aliases ∧ a.value = v ∧ ¬ f.Greatest v b.label := by
  obtain ⟨ms, hlength, hms, hvalue⟩ := exists_sublist_of_shares h
  obtain ⟨x, y, z, rfl⟩ := List.length_eq_three.1 hlength
  have hxy : [x, y].Sublist f.members :=
    .trans (.cons_cons _ (.cons_cons _ (List.nil_sublist _))) hms
  have hyz : [y, z].Sublist f.members := .trans (.cons _ (.refl _)) hms
  have hxv := hvalue x (by simp)
  have hyv := hvalue y (by simp)
  have hzv := hvalue z (by simp)
  obtain ⟨a, ha⟩ := exists_mem_sharedNeighbours f.sorted hxy (hxv.trans hyv.symm)
  refine ⟨a, y, ha, (sublist_of_mem_sharedNeighbours ha).2.trans hyv, ?_⟩
  intro hgreatest
  have hzy := (utf8_le_iff _ _).1 (hgreatest.2 z (hyz.mem (by simp)) hzv)
  have hback : z.le y = true := (Member.le_iff z y).2 (.inr ⟨hzv.trans hyv.symm, hzy⟩)
  have hle := List.pairwise_iff_forall_sublist.1 f.sorted hyz
  have hne : y ≠ z := by simpa using hnodup.sublist hyz
  exact hne (Member.le_antisymm hle hback)

end Family

/-! All warnings of a library. -/

theorem mem_warnings_iff {library : Library} {options : Options}
    (h : (validate library options).result = .ok ()) (w : Warning) :
    w ∈ (validate library options).warnings ↔
      ∃ f ∈ library.families, ∃ pair ∈ f.aliases, f.sharedWarning pair = w := by
  rw [warnings_validate h, List.mem_flatMap]
  simp only [List.mem_map]

/-- A warning is true when its label is the greatest of its value. Each value that is shared has
such a warning, and all warnings are such exactly when no value is shared by more than two. -/
theorem warnings_true_iff {library : Library} {options : Options}
    (h : (validate library options).result = .ok ()) :
    ((validate library options).warnings =
      library.families.flatMap fun f => f.aliases.map f.sharedWarning) ∧
    (∀ f ∈ library.families, ∀ v first preferred,
      (Warning.sharedValue f.name v first preferred).IsTrue library options.width ↔
        f.Greatest v preferred) ∧
    (∀ f ∈ library.families, ∀ v l, f.Greatest v l → 2 ≤ f.shares v →
      ∃ first, .sharedValue f.name v first l ∈ (validate library options).warnings) ∧
    ((∀ w ∈ (validate library options).warnings, w.IsTrue library options.width) ↔
      ∀ f ∈ library.families, ∀ v, f.shares v ≤ 2) := by
  have ha := (validate_eq_ok_iff library options).1 h
  have hnodup {f : Family} (hf : f ∈ library.families) : f.members.Nodup :=
    .of_map _ (ha.nodup_labels hf)
  refine ⟨warnings_validate h, fun f hf => isTrue_sharedValue_iff hf options.width, ?_, ?_⟩
  · intro f hf v l hgreatest hshares
    obtain ⟨a, halias⟩ := Family.exists_alias_of_greatest (hnodup hf) hgreatest hshares
    obtain ⟨-, hv⟩ := Family.sublist_of_mem_sharedNeighbours halias
    refine ⟨a.label, (mem_warnings_iff h _).2 ⟨f, hf, _, halias, ?_⟩⟩
    rw [Family.sharedWarning, hv]
  · constructor
    · intro htrue f hf v
      by_contra hshares
      obtain ⟨a, b, halias, rfl, hnot⟩ :=
        Family.exists_alias_not_greatest (hnodup hf) (Nat.not_le.1 hshares)
      have hw := htrue _ ((mem_warnings_iff h _).2 ⟨f, hf, _, halias, rfl⟩)
      exact hnot ((isTrue_sharedValue_iff hf _ _ _ _).1 hw)
    · intro hshares w hw
      obtain ⟨f, hf, ⟨a, b⟩, halias, rfl⟩ := (mem_warnings_iff h w).1 hw
      refine (isTrue_sharedValue_iff hf _ _ _ _).2 ?_
      exact Family.greatest_of_mem_aliases (hnodup hf) halias (hshares f hf a.value)

theorem preferences_warnings_true :
    (validate .preferences .default).result = .ok () ∧
      (validate .preferences .default).warnings = [.sharedValue "Preference" 2 "Liked" "Loved"] ∧
      ∀ w ∈ (validate .preferences .default).warnings, w.IsTrue .preferences .u32 := by
  have h : (validate .preferences .default).result = .ok () := by decide +kernel
  have hshares : ∀ f ∈ Library.preferences.families, ∀ v, f.shares v ≤ 2 := by
    intro f hf v
    obtain rfl := List.mem_singleton.1 hf
    by_cases hv : v = 0
    · subst hv
      decide
    · simp only [Family.shares, List.countP_cons, Ne.symm hv]
      split <;> simp
  exact ⟨h, by decide +kernel, (warnings_true_iff h).2.2.2.2 hshares⟩

/-- A library in which three labels share a value. -/
def Library.blues : Library where
  families := [⟨"Color", [⟨"Azure", 1⟩, ⟨"Blue", 1⟩, ⟨"Cyan", 1⟩], by decide⟩]
  sorted := by decide

/-- The warning of the first two labels takes the second for the one that is shown, and the third is
shown. -/
theorem blues_warning_false :
    (generate .blues .default).result = .ok (Library.blues.text .u32) ∧
      .sharedValue "Color" 1 "Azure" "Blue" ∈ (validate .blues .default).warnings ∧
      ∃ f ∈ Library.blues.families, f.name = "Color" ∧ (f.code .u32).name? 1 = some "Cyan" ∧
        (f.code .u32).display 1 = "Cyan" := by
  refine ⟨generate_of_validate (by decide +kernel) (by decide +kernel), by decide +kernel, _,
    .head _, ?_⟩
  decide +kernel

end EnumForge
