import EnumForge.Proofs.Table.Document
import EnumForge.Proofs.Table.Family
import EnumForge.Proofs.Text.ByteOrder

namespace EnumForge

def entries (fs : List Family) : List (String × Family) := fs.map fun f => (f.name, f)

theorem entries_placeFamily (f : Family) (gs : List Family) :
    entries (placeFamily f gs) = placeKey f.name f (entries gs) := by
  induction gs with
  | nil => rfl
  | cons g gs ih =>
    simp only [placeFamily, entries, List.map_cons, placeKey]
    split
    · rfl
    · split
      · rfl
      · rw [List.map_cons, ← entries, ih, entries]

theorem lookup_entries (fs : List Family) (name : String) :
    (entries fs).lookup name = fs.find? (·.name == name) := by
  induction fs with
  | nil => rfl
  | cons f fs ih =>
    rw [entries, List.map_cons, lookup_cons_eq, ← entries, ih, List.find?_cons]
    by_cases h : name = f.name
    · simp [h]
    · rw [if_neg h, beq_eq_false_iff_ne.2 (Ne.symm h)]

theorem map_snd_entries (fs : List Family) : (entries fs).map (·.2) = fs := by
  simp [entries, Function.comp_def]

namespace Library

variable {l k : Library}

theorem ascending_entries (l : Library) : Ascending (entries l.families) :=
  List.pairwise_map.2 l.sorted

theorem lookup_entries (l : Library) (name : String) :
    (entries l.families).lookup name = l.get? name :=
  EnumForge.lookup_entries l.families name

/-- A library is known by its look-ups. -/
theorem ext_get? (h : ∀ name, l.get? name = k.get? name) : l = k := by
  have hentries : entries l.families = entries k.families := by
    apply l.ascending_entries.ext k.ascending_entries
    intro name
    rw [lookup_entries, lookup_entries, h]
  have hfamilies : l.families = k.families := by
    rw [← map_snd_entries l.families, hentries, map_snd_entries]
  cases l
  cases k
  simpa using hfamilies

theorem get?_eq_some_iff (l : Library) (name : String) (f : Family) :
    l.get? name = some f ↔ f ∈ l.families ∧ f.name = name := by
  rw [← lookup_entries, l.ascending_entries.lookup_iff]
  simp [entries, and_comm]

theorem mem_families_iff (l : Library) (f : Family) : f ∈ l.families ↔ l.get? f.name = some f := by
  rw [get?_eq_some_iff, and_iff_left rfl]

@[simp] theorem get?_empty (name : String) : empty.get? name = none := rfl

/-- Only the look-up of its name finds a family that has been added. -/
theorem get?_insert (l : Library) (f : Family) (name : String) :
    (l.insert f).get? name = if name = f.name then some f else l.get? name := by
  rw [← lookup_entries, ← lookup_entries, insert, entries_placeFamily, lookup_placeKey]

theorem displaced?_eq (l : Library) (f : Family) : displaced? f l.families = l.get? f.name := by
  obtain ⟨fs, hsorted⟩ := l
  unfold get?
  induction fs with
  | nil => rfl
  | cons g gs ih =>
    obtain ⟨hg, hgs⟩ := List.pairwise_cons.1 hsorted
    rw [displaced?, List.find?_cons]
    split
    · next hlt =>
      -- no later family has the name, as it would stand before `g`
      have hnone : gs.find? (·.name == f.name) = none := by
        refine List.find?_eq_none.2 fun k hk hname => ?_
        have hgk := hg k hk
        rw [beq_iff_eq.1 hname] at hgk
        exact String.lt_asymm hlt hgk
      rw [beq_eq_false_iff_ne.2 (ne_of_gt hlt), hnone]
    · split
      · next heq => rw [beq_iff_eq.2 heq.symm]
      · next hne => rw [beq_eq_false_iff_ne.2 (Ne.symm hne), ih hgs]

theorem nodup_names (l : Library) : (l.families.map Family.name).Nodup :=
  List.pairwise_map.2 (l.sorted.imp fun hlt => ne_of_lt hlt)

theorem mem_names_iff (l : Library) (name : String) :
    name ∈ l.families.map Family.name ↔ (l.get? name).isSome = true := by
  simp only [List.mem_map, Option.isSome_iff_exists, get?_eq_some_iff]

/-- The families that have another name than a given one. -/
def others (l : Library) (name : String) : List Family := l.families.filter (·.name ≠ name)

theorem families_perm (l : Library) (name : String) :
    l.families.Perm ((l.get? name).toList ++ l.others name) := by
  have hfamilies : l.families.Nodup := .of_map _ l.nodup_names
  have hothers : (l.others name).Nodup := hfamilies.filter _
  have hget : (l.get? name).toList.Nodup := by cases l.get? name <;> simp
  have hapart : ∀ f ∈ (l.get? name).toList, ∀ g ∈ l.others name, f ≠ g := by
    rintro f hf g hg rfl
    rw [Option.mem_toList, get?_eq_some_iff] at hf
    simpa [hf.2] using (List.mem_filter.1 hg).2
  refine (List.perm_ext_iff_of_nodup hfamilies (List.nodup_append.2 ⟨hget, hothers, hapart⟩)).2 ?_
  intro f
  rw [List.mem_append, Option.mem_toList, get?_eq_some_iff, others,
    List.mem_filter, decide_eq_true_iff]
  by_cases hname : f.name = name <;> simp [hname]

theorem others_insert (l : Library) (f : Family) :
    ((l.insert f).others f.name).Perm (l.others f.name) := by
  have hnodup (k : Library) : (k.others f.name).Nodup :=
    (List.Nodup.of_map _ k.nodup_names).filter _
  refine (List.perm_ext_iff_of_nodup (hnodup _) (hnodup l)).2 fun g => ?_
  rw [others, others, List.mem_filter, List.mem_filter, mem_families_iff, mem_families_iff,
    get?_insert]
  by_cases hname : g.name = f.name <;> simp [hname]

/-- Adding a family hands back the one of its name, if there is one, and leaves the others. -/
theorem replace_spec (l : Library) (f : Family) :
    (l.replace f).1 = l.get? f.name ∧
      l.families.Perm ((l.replace f).1.toList ++ l.others f.name) ∧
      (l.replace f).2.families.Perm (f :: l.others f.name) := by
  have hdisplaced : (l.replace f).1 = l.get? f.name := l.displaced?_eq f
  refine ⟨hdisplaced, hdisplaced ▸ l.families_perm f.name, ?_⟩
  have hafter := (l.insert f).families_perm f.name
  rw [get?_insert, if_pos rfl] at hafter
  exact hafter.trans ((l.others_insert f).cons f)

theorem memberCount_eq_length (l : Library) :
    l.memberCount = (l.families.flatMap Family.members).length := by
  unfold memberCount
  induction l.families with
  | nil => rfl
  | cons f fs ih => rw [List.foldr_cons, ih, List.flatMap_cons, List.length_append, Family.size]

theorem get?_ofFamilies {fs : List Family} (h : (fs.map Family.name).Nodup) (name : String) :
    (ofFamilies fs).get? name = fs.find? (·.name == name) := by
  have hfold (l : Library) : entries (fs.foldl insert l).families =
      (entries fs).foldl (fun es e => placeKey e.1 e.2 es) (entries l.families) := by
    clear h
    induction fs generalizing l with
    | nil => rfl
    | cons f fs ih =>
      rw [List.foldl_cons, ih, insert, entries_placeFamily]
      rfl
  have hentries : entries (ofFamilies fs).families = resolveKeys (entries fs) := hfold empty
  have hnodup : ((entries fs).map (·.1)).Nodup := by simpa [entries, Function.comp_def] using h
  rw [← lookup_entries, hentries, lookup_resolveKeys, lookup_reverse hnodup,
    EnumForge.lookup_entries]

end Library

/-- The value that a number stands for. -/
def Json.Number.value? : Json.Number → Option UInt64
  | .natural n => some (.ofNat n)
  | _ => none

/-- The member that a label and its number stand for. -/
def suppliedMember? (e : String × Json.Numeral) : Option Member :=
  e.2.number.value?.map fun v => ⟨e.1, v⟩

theorem suppliedMember?_of_readMember {family : String} {e : String × Json.Numeral} {m : Member}
    (h : readMember family e = .ok m) : suppliedMember? e = some m := by
  obtain ⟨label, n⟩ := e
  obtain ⟨v, hv, rfl⟩ := (except_map_eq_ok_iff _ _ _).1 h
  simp only [suppliedMember?]
  cases hn : n.number with
  | natural k =>
    rw [hn] at hv
    rw [Json.Number.value?, Option.map_some, Except.ok.inj hv]
  | negative k => simp [hn, memberValue] at hv
  | real minus x =>
    rw [hn, memberValue] at hv
    split at hv <;> simp at hv

namespace Document

/-- The members that a document gives to a family: each label of the last family of the name, with
the last number of the label. -/
def supplied? (d : Document) (name : String) : Option (List Member) :=
  (d.members? name).map fun members => (resolveKeys members).filterMap suppliedMember?

/-- What a document gives to a family is what its numerals say of the labels there. -/
theorem mem_supplied?_iff (d : Document) (name : String) (m : Member) :
    (∃ ms, d.supplied? name = some ms ∧ m ∈ ms) ↔
      ∃ n, d.numeral? name m.label = some n ∧ n.number.value? = some m.value := by
  have hmember (label : String) (n : Json.Numeral) :
      suppliedMember? (label, n) = some m ↔ label = m.label ∧ n.number.value? = some m.value := by
    rw [suppliedMember?, Option.map_eq_some_iff]
    constructor
    · rintro ⟨v, hv, rfl⟩
      exact ⟨rfl, hv⟩
    · rintro ⟨rfl, hv⟩
      exact ⟨_, hv, rfl⟩
  simp only [supplied?, numeral?_eq_some_iff, Option.map_eq_some_iff]
  constructor
  · rintro ⟨_, ⟨members, hmembers, rfl⟩, hm⟩
    obtain ⟨⟨label, n⟩, he, hm⟩ := List.mem_filterMap.1 hm
    obtain ⟨rfl, hv⟩ := (hmember label n).1 hm
    exact ⟨n, ⟨members, hmembers, (mem_resolveKeys_iff members _ n).1 he⟩, hv⟩
  · rintro ⟨n, ⟨members, hmembers, hn⟩, hv⟩
    refine ⟨_, ⟨members, hmembers, rfl⟩, List.mem_filterMap.2 ⟨(m.label, n), ?_, ?_⟩⟩
    · exact (mem_resolveKeys_iff members _ n).2 hn
    · exact (hmember m.label n).2 ⟨rfl, hv⟩

theorem family_eq_of_ok {name : String} {members : List (String × Json.Numeral)} {f : Family}
    (h : Document.family name members = .ok f) :
    f = .ofMembers name ((resolveKeys members).filterMap suppliedMember?) := by
  rw [family_eq, except_map_eq_ok_iff] at h
  obtain ⟨ms, hms, rfl⟩ := h
  rw [filterMap_of_mapM (fun _ _ => suppliedMember?_of_readMember) hms]

/-- The library of a document has under each name what the document gives to it. -/
theorem get?_library {d : Document} {l : Library} (h : d.library = .ok l) (name : String) :
    l.get? name = (d.supplied? name).map (Family.ofMembers name) := by
  rw [library_eq, except_map_eq_ok_iff] at h
  obtain ⟨fs, hfs, rfl⟩ := h
  let family (e : String × List (String × Json.Numeral)) : Family :=
    .ofMembers e.1 ((resolveKeys e.2).filterMap suppliedMember?)
  have hsome : (resolveKeys d).filterMap (fun e => some (family e)) = fs :=
    filterMap_of_mapM (fun _ _ hf => congrArg some (family_eq_of_ok hf).symm) hfs
  have hmap : fs = (resolveKeys d).map family := by rw [← hsome, List.filterMap_eq_map']
  have hnames : fs.map Family.name = (resolveKeys d).map (·.1) := by
    rw [hmap, List.map_map]
    rfl
  have hentries : entries fs = (resolveKeys d).map fun e => (e.1, family e) := by
    rw [hmap, entries, List.map_map]
    rfl
  have hnodup : (fs.map Family.name).Nodup := hnames ▸ (ascending_resolveKeys d).nodup_keys
  rw [Library.get?_ofFamilies hnodup, ← lookup_entries, hentries, lookup_map_snd,
    lookup_resolveKeys, supplied?, Option.map_map]
  rfl

end Document

end EnumForge
