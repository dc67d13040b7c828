namespace EnumForge

/-- A label and the integer it stands for. -/
structure Member where
  label : String
  value : UInt64
deriving DecidableEq, Repr

/-- Order of members: by value, then by label. -/
def Member.le (a b : Member) : Bool :=
  a.value < b.value || (a.value == b.value && decide (a.label ≤ b.label))

theorem Member.le_iff (a b : Member) :
    a.le b = true ↔ a.value < b.value ∨ (a.value = b.value ∧ a.label ≤ b.label) := by
  simp [Member.le]

theorem Member.le_trans (a b c : Member) (hab : a.le b = true) (hbc : b.le c = true) :
    a.le c = true := by
  rw [Member.le_iff] at *
  rcases hab with hab | ⟨hab, hl⟩ <;> rcases hbc with hbc | ⟨hbc, hr⟩
  · exact .inl (UInt64.lt_trans hab hbc)
  · exact .inl (hbc ▸ hab)
  · exact .inl (hab ▸ hbc)
  · exact .inr ⟨hab.trans hbc, String.le_trans hl hr⟩

theorem Member.le_total (a b : Member) : (a.le b || b.le a) = true := by
  rw [Bool.or_eq_true, Member.le_iff, Member.le_iff]
  by_cases hab : a.value < b.value
  · exact .inl (.inl hab)
  · by_cases hba : b.value < a.value
    · exact .inr (.inl hba)
    · have h : a.value = b.value := UInt64.le_antisymm (UInt64.not_lt.1 hba) (UInt64.not_lt.1 hab)
      rcases String.le_total a.label b.label with hl | hl
      · exact .inl (.inr ⟨h, hl⟩)
      · exact .inr (.inr ⟨h.symm, hl⟩)

/-- A named group of members in order. -/
structure Family where
  name : String
  members : List Member
  sorted : members.Pairwise (fun a b => a.le b = true)
deriving DecidableEq, Repr

namespace Family

/-- The family of some members given in any order. -/
def ofMembers (name : String) (members : List Member) : Family where
  name := name
  members := members.mergeSort Member.le
  sorted := List.pairwise_mergeSort Member.le_trans Member.le_total members

def isEmpty (f : Family) : Bool := f.members.isEmpty

def size (f : Family) : Nat := f.members.length

/-- Neighbours in a list that share a value. -/
def sharedNeighbours : List Member → List (Member × Member)
  | a :: b :: rest =>
    if a.value = b.value then (a, b) :: sharedNeighbours (b :: rest)
    else sharedNeighbours (b :: rest)
  | _ => []

/-- Each member whose value the member before it has too, after that member. -/
def aliases (f : Family) : List (Member × Member) := sharedNeighbours f.members

theorem members_ofMembers_perm (name : String) (members : List Member) :
    (ofMembers name members).members.Perm members :=
  List.mergeSort_perm members Member.le

@[simp] theorem name_ofMembers (name : String) (members : List Member) :
    (ofMembers name members).name = name := rfl

end Family

end EnumForge
