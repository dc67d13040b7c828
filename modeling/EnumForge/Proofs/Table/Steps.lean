import EnumForge.Proofs.Table.Library
import Mathlib.Data.List.Perm.Basic

namespace EnumForge

open Text

def membersOfPairs (pairs : List (String × UInt64)) : List Member := pairs.map fun e => ⟨e.1, e.2⟩

namespace Library

/-- A step of a program that builds a library: a family is inserted, in one of two ways, or a text
is parsed. -/
inductive Step
  | insert (name : String) (members : List Member)
  | withFamily (name : String) (pairs : List (String × UInt64))
  | parse (path text : String)

namespace Step

/-- What a step makes of a library. A text that fails to parse leaves it as it is. -/
def run (l : Library) : Step → Library
  | insert name members => (l.replace (.ofMembers name members)).2
  | withFamily name pairs => l.withFamily name pairs
  | parse path text =>
    match ofText path text with
    | .ok parsed => parsed
    | .error _ => l

/-- The name of the family that a step inserts. -/
def name? : Step → Option String
  | insert name _ => some name
  | withFamily name _ => some name
  | parse _ _ => none

/-- What a step says of a name, if it says something: the members of its family, or that there is no
such family. -/
def says? (name : String) : Step → Option (Option (List Member))
  | insert n members => if name = n then some (some members) else none
  | withFamily n pairs => if name = n then some (some (membersOfPairs pairs)) else none
  | parse path text =>
    match Document.read text, ofText path text with
    | .ok d, .ok _ => some (d.supplied? name)
    | _, _ => none

end Step

/-- The library after some steps, from an empty one. -/
def ofSteps (steps : List Step) : Library := steps.foldl Step.run empty

/-- The members that some steps give to a name: what the last step says that says something. -/
def supplied? (steps : List Step) (name : String) : Option (List Member) :=
  (steps.reverse.findSome? (Step.says? name)).join

/-- Steps in another order. Two insertions change places if their families have different names; a
text that fails to parse may stand anywhere; the members of a family may be given in any order. -/
inductive Reordered : List Step → List Step → Prop
  | refl (as : List Step) : Reordered as as
  | symm {as bs : List Step} (h : Reordered as bs) : Reordered bs as
  | trans {as bs cs : List Step} (hab : Reordered as bs) (hbc : Reordered bs cs) : Reordered as cs
  | cons (a : Step) {as bs : List Step} (h : Reordered as bs) : Reordered (a :: as) (a :: bs)
  | members (name : String) {ms ns : List Member} (h : ms.Perm ns) (as : List Step) :
    Reordered (.insert name ms :: as) (.insert name ns :: as)
  | pairs (name : String) {ps qs : List (String × UInt64)} (h : ps.Perm qs) (as : List Step) :
    Reordered (.withFamily name ps :: as) (.withFamily name qs :: as)
  | swap {a b : Step} {n k : String} (ha : a.name? = some n) (hb : b.name? = some k) (h : n ≠ k)
    (as : List Step) : Reordered (a :: b :: as) (b :: a :: as)
  | failed {path text : String} {e : Error} (h : ofText path text = .error e) (a : Step)
    (as : List Step) : Reordered (.parse path text :: a :: as) (a :: .parse path text :: as)

/-- What is known of a library after some steps: the order of its families and of their members, what
a look-up finds, what an insertion displaces, and how much there is. -/
structure Records (steps : List Step) (l : Library) : Prop where
  names_ascend : l.families.Pairwise fun f g => utf8 f.name.toList < utf8 g.name.toList
  own_name : ∀ f ∈ l.families, l.get? f.name = some f
  members_ascend : ∀ f ∈ l.families, f.members.Pairwise fun a b =>
    a.value < b.value ∨ a.value = b.value ∧ utf8 a.label.toList ≤ utf8 b.label.toList
  members_perm : ∀ f ∈ l.families, ∃ ms, supplied? steps f.name = some ms ∧ f.members.Perm ms
  get : ∀ name, l.get? name = (supplied? steps name).map (Family.ofMembers name)
  displaces : ∀ f, (l.replace f).1 = l.get? f.name ∧
    l.families.Perm ((l.replace f).1.toList ++ l.others f.name) ∧
    (l.replace f).2.families.Perm (f :: l.others f.name)
  counts : ∃ names : List String, names.Nodup ∧
    (∀ name, name ∈ names ↔ (supplied? steps name).isSome = true) ∧ l.size = names.length ∧
    l.memberCount = (names.flatMap fun name => (supplied? steps name).getD []).length

variable {l : Library}

/-- A step changes what stands under the names of which it says something. -/
theorem get?_run (l : Library) (s : Step) (name : String) :
    (s.run l).get? name =
      match s.says? name with
      | some members => members.map (Family.ofMembers name)
      | none => l.get? name := by
  cases s with
  | insert n members =>
    rw [Step.run, replace, get?_insert, Family.name_ofMembers, Step.says?]
    by_cases hname : name = n
    · simp [hname]
    · simp [hname]
  | withFamily n pairs =>
    rw [Step.run, withFamily, replace, get?_insert, Family.name_ofMembers, Step.says?]
    by_cases hname : name = n
    · simp [hname, membersOfPairs]
    · simp [hname]
  | parse path text =>
    rw [Step.run, Step.says?]
    cases hread : Document.read text with
    | error cause =>
      have hfail : ofText path text = .error (.inputParse path cause) := by
        rw [ofText, hread]
        rfl
      rw [hfail]
    | ok d =>
      rw [ofText_of_read hread]
      cases hlibrary : d.library with
      | error e => rfl
      | ok parsed => exact Document.get?_library hlibrary name

theorem says?_of_ne {s : Step} {n name : String} (hs : s.name? = some n) (hname : name ≠ n) :
    s.says? name = none := by
  cases s with
  | insert k members =>
    obtain rfl := Option.some.inj hs
    exact if_neg hname
  | withFamily k pairs =>
    obtain rfl := Option.some.inj hs
    exact if_neg hname
  | parse path text => simp [Step.name?] at hs

/-- Two steps change places if no name is one of which both say something. -/
theorem run_comm {a b : Step} (h : ∀ name, a.says? name = none ∨ b.says? name = none)
    (l : Library) : b.run (a.run l) = a.run (b.run l) := by
  apply ext_get?
  intro name
  simp only [get?_run]
  rcases h name with ha | hb
  · rw [ha]
  · rw [hb]

theorem get?_ofSteps (steps : List Step) (name : String) :
    (ofSteps steps).get? name = (supplied? steps name).map (Family.ofMembers name) := by
  -- from any library on: where no step says anything of the name, it stands as it did
  have hfold (l : Library) : (steps.foldl Step.run l).get? name =
      match steps.reverse.findSome? (Step.says? name) with
      | some members => members.map (Family.ofMembers name)
      | none => l.get? name := by
    induction steps generalizing l with
    | nil => rfl
    | cons s steps ih =>
      rw [List.foldl_cons, ih, get?_run, List.reverse_cons, List.findSome?_append]
      cases steps.reverse.findSome? (Step.says? name) with
      | some members => rfl
      | none => cases hs : s.says? name <;> simp [hs]
  rw [ofSteps, hfold, supplied?]
  cases steps.reverse.findSome? (Step.says? name) <;> simp

theorem Reordered.run_eq {as bs : List Step} (h : Reordered as bs) (l : Library) :
    as.foldl Step.run l = bs.foldl Step.run l := by
  induction h generalizing l with
  | refl as => rfl
  | symm _ ih => exact (ih l).symm
  | trans _ _ ihab ihbc => exact (ihab l).trans (ihbc l)
  | cons a _ ih => exact ih _
  | members name h as =>
    rw [List.foldl_cons, List.foldl_cons, Step.run, Step.run, Family.ofMembers_eq_of_perm name h]
  | pairs name h as =>
    rw [List.foldl_cons, List.foldl_cons, Step.run, Step.run, withFamily, withFamily,
      Family.ofMembers_eq_of_perm name (h.map _)]
  | @swap a b n k ha hb hne as =>
    have hapart : ∀ name, a.says? name = none ∨ b.says? name = none := by
      intro name
      by_cases hname : name = n
      · exact .inr (says?_of_ne hb (hname ▸ hne))
      · exact .inl (says?_of_ne ha hname)
    rw [List.foldl_cons, List.foldl_cons, List.foldl_cons, List.foldl_cons, run_comm hapart]
  | failed h a as => simp only [List.foldl_cons, Step.run, h]

/-- A family has the members that its name was given. -/
theorem members_perm_ofSteps (steps : List Step) {f : Family} (hf : f ∈ (ofSteps steps).families) :
    ∃ ms, supplied? steps f.name = some ms ∧ f.members.Perm ms := by
  have hget := ((ofSteps steps).mem_families_iff f).1 hf
  rw [get?_ofSteps, Option.map_eq_some_iff] at hget
  obtain ⟨ms, hms, hf⟩ := hget
  exact ⟨ms, hms, hf ▸ Family.members_ofMembers_perm f.name ms⟩

theorem records_ofSteps (steps : List Step) : Records steps (ofSteps steps) where
  names_ascend := (ofSteps steps).sorted.imp fun hlt => (utf8_lt_iff _ _).2 hlt
  own_name f hf := ((ofSteps steps).mem_families_iff f).1 hf
  members_ascend f hf := by
    refine f.sorted.imp fun {a b} hle => ?_
    rw [utf8_le_iff]
    exact (Member.le_iff a b).1 hle
  members_perm _ hf := members_perm_ofSteps steps hf
  get := get?_ofSteps steps
  displaces := (ofSteps steps).replace_spec
  counts := by
    refine ⟨(ofSteps steps).families.map Family.name, (ofSteps steps).nodup_names, ?_, ?_, ?_⟩
    · intro name
      rw [mem_names_iff, get?_ofSteps, Option.isSome_map]
    · rw [size, List.length_map]
    · rw [memberCount_eq_length, List.flatMap_map]
      apply List.Perm.length_eq
      apply List.Perm.flatMap_left
      intro f hf
      obtain ⟨ms, hms, hperm⟩ := members_perm_ofSteps steps hf
      rwa [hms, Option.getD_some]

/-- A library that was built in steps is in order and holds, under each name, what the last step said
of the name; and steps that are reordered build the same library. -/
theorem ofSteps_records_reordered (steps : List Step) :
    Records steps (ofSteps steps) ∧
      ∀ reordered, Reordered steps reordered → ofSteps reordered = ofSteps steps :=
  ⟨records_ofSteps steps, fun _ h => (h.run_eq empty).symm⟩

/-- A family is parsed and then displaced; another one is added. -/
def tidySteps : List Step :=
  [.parse inlinePath Document.tidyText, .insert "C" [⟨"s", 5⟩, ⟨"r", 5⟩, ⟨"s", 5⟩],
    .withFamily "A" [("x", 1)]]

def tidyStepsReordered : List Step :=
  [.parse inlinePath Document.tidyText, .withFamily "A" [("x", 1)],
    .insert "C" [⟨"r", 5⟩, ⟨"s", 5⟩, ⟨"s", 5⟩]]

theorem tidySteps_reordered :
    Reordered tidySteps tidyStepsReordered ∧ ofSteps tidyStepsReordered = ofSteps tidySteps ∧
      (ofSteps tidySteps).families.map Family.name = ["A", "C", "T"] := by
  have hreordered : Reordered tidySteps tidyStepsReordered := by
    refine .cons _ (.trans (.members "C" (List.Perm.swap _ _ _) _) ?_)
    exact .swap rfl rfl (by decide) []
  exact ⟨hreordered, (ofSteps_records_reordered tidySteps).2 _ hreordered, by decide +kernel⟩

end Library

end EnumForge
