import EnumForge.Table.Family

namespace EnumForge

/-- Puts a family in its place by name; one of the same name goes. -/
def placeFamily (f : Family) : List Family → List Family
  | [] => [f]
  | g :: gs =>
    if f.name < g.name then f :: g :: gs
    else if f.name = g.name then f :: gs
    else g :: placeFamily f gs

theorem mem_placeFamily {f g : Family} {gs : List Family} (h : g ∈ placeFamily f gs) :
    g = f ∨ g ∈ gs := by
  induction gs with
  | nil => simpa [placeFamily] using h
  | cons k gs ih =>
    unfold placeFamily at h
    split at h
    · simpa using h
    · split at h
      · rcases List.mem_cons.1 h with h | h
        · exact .inl h
        · exact .inr (List.mem_cons_of_mem _ h)
      · rcases List.mem_cons.1 h with h | h
        · exact .inr (by simp [h])
        · exact (ih h).imp_right (List.mem_cons_of_mem _)

theorem placeFamily_sorted (f : Family) (gs : List Family)
    (h : gs.Pairwise (fun a b => a.name < b.name)) :
    (placeFamily f gs).Pairwise (fun a b => a.name < b.name) := by
  induction gs with
  | nil => simp [placeFamily]
  | cons g gs ih =>
    obtain ⟨hg, hgs⟩ := List.pairwise_cons.1 h
    unfold placeFamily
    split
    · next hlt =>
      refine List.pairwise_cons.2 ⟨fun k hk => ?_, h⟩
      rcases List.mem_cons.1 hk with rfl | hk
      · exact hlt
      · exact String.lt_trans hlt (hg k hk)
    · split
      · next heq => exact List.pairwise_cons.2 ⟨fun k hk => heq ▸ hg k hk, hgs⟩
      · next hlt hne =>
        refine List.pairwise_cons.2 ⟨fun k hk => ?_, ih hgs⟩
        rcases mem_placeFamily hk with rfl | hk
        · grind
        · exact hg k hk

/-- The family that has to make room for one of its name, found where that one is put. -/
def displaced? (f : Family) : List Family → Option Family
  | [] => none
  | g :: gs =>
    if f.name < g.name then none
    else if f.name = g.name then some g
    else displaced? f gs

/-- Families in strictly ascending order of name. -/
structure Library where
  families : List Family
  sorted : families.Pairwise (fun a b => a.name < b.name)
deriving DecidableEq, Repr

namespace Library

def empty : Library := ⟨[], .nil⟩

def isEmpty (l : Library) : Bool := l.families.isEmpty

def size (l : Library) : Nat := l.families.length

def memberCount (l : Library) : Nat := l.families.foldr (fun f n => f.size + n) 0

def get? (l : Library) (name : String) : Option Family := l.families.find? (·.name == name)

/-- Adds a family in the place of the one with its name. -/
def insert (l : Library) (f : Family) : Library where
  families := placeFamily f l.families
  sorted := placeFamily_sorted f l.families l.sorted

/-- Adds a family, and hands back the one that was in its place. -/
def replace (l : Library) (f : Family) : Option Family × Library :=
  (displaced? f l.families, l.insert f)

/-- Adds a family made of labels and values. -/
def withFamily (l : Library) (name : String) (members : List (String × UInt64)) : Library :=
  (l.replace (.ofMembers name (members.map fun e => ⟨e.1, e.2⟩))).2

/-- Inserts families one after the other. -/
def ofFamilies (families : List Family) : Library := families.foldl insert empty

end Library

end EnumForge
