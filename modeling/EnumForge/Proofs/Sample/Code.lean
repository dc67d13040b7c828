import EnumForge.Proofs.Constant
import EnumForge.Proofs.Json.Record
import EnumForge.Proofs.Value.Reading
import EnumForge.Sample.Track

namespace EnumForge

open Json

/-! Values of a family. -/

namespace Family

def Declares (f : Family) (v : UInt64) : Prop := ∃ m ∈ f.members, m.value = v

instance (f : Family) (v : UInt64) : Decidable (f.Declares v) :=
  inferInstanceAs (Decidable (∃ m ∈ f.members, m.value = v))

/-- A family whose labels are told apart from each other, by their constants too, and from the texts
of all undeclared values. -/
structure Legible (f : Family) : Prop where
  constants : (f.members.map (Member.constant f.name)).Nodup
  labels : (f.members.map Member.label).Nodup
  apart : ∀ m ∈ f.members, ¬(f.name ++ "_0x").toList <+: m.label.toList

variable {f : Family}

/-- The text of a value leads to that value or to none, and to none if the value is undeclared. -/
theorem Legible.fromName?_display_iff (h : f.Legible) (width : Width) (v u : UInt64) :
    (f.code width).fromName? ((f.code width).display v) = some u ↔ u = v ∧ f.Declares v := by
  rw [f.fromName?_eq_some_iff width h.constants h.labels]
  rcases f.greatest_or_undeclared v with ⟨label, hgreatest⟩ | hundeclared
  · rw [display_of_greatest hgreatest]
    constructor
    · intro hmem
      have hsame : (⟨label, u⟩ : Member) = ⟨label, v⟩ :=
        List.inj_on_of_nodup_map h.labels hmem hgreatest.1 rfl
      exact ⟨(Member.mk.inj hsame).2, _, hgreatest.1, rfl⟩
    · rintro ⟨rfl, -⟩
      exact hgreatest.1
  · rw [display_of_undeclared hundeclared]
    constructor
    · intro hmem
      refine absurd ?_ (h.apart _ hmem)
      rw [FamilyCode.toList_fallback]
      exact ⟨Text.hexUpper v.toNat, by simp [Family.code]⟩
    · rintro ⟨-, m, hm, hvalue⟩
      exact absurd hvalue (hundeclared m hm)

end Family

namespace FamilyCode

/-- The value of a label, or the cause of a failure in a document. -/
def labelValue (code : FamilyCode) (label : String) : Except Cause UInt64 :=
  match code.fromName? label with
  | some v => .ok v
  | none => .error (.unknownLabel code.name label)

theorem labelValue_eq_ok_iff (code : FamilyCode) (label : String) (v : UInt64) :
    code.labelValue label = .ok v ↔ code.fromName? label = some v := by
  unfold labelValue
  cases code.fromName? label with
  | some w => simp
  | none => simp

theorem labelValue_eq_error {code : FamilyCode} {label : String} {cause : Cause}
    (h : code.labelValue label = .error cause) : cause = .unknownLabel code.name label := by
  unfold labelValue at h
  cases hlabel : code.fromName? label with
  | some w => simp [hlabel] at h
  | none => simpa [hlabel] using h.symm

theorem readValue_of_stringText (code : FamilyCode) {t rest : List Char} {label : String}
    (h : StringText t label) :
    code.readValue (t ++ rest) = decided (code.labelValue label) rest rest := by
  rw [readValue, readStringValue_of_stringText h]
  simp only [bind, Except.bind, String.ofList_toList, labelValue]
  cases code.fromName? label with
  | some v => rfl
  | none => rfl

end FamilyCode

namespace Sample

/-- Members that are given in order stay as they are. -/
theorem family_eq {name : String} {members : List (String × UInt64)}
    (h : (members.map fun m => (⟨m.1, m.2⟩ : Member)).Pairwise (fun a b => a.le b = true)) :
    family name members = ⟨name, _, h⟩ :=
  Family.ofMembers_eq_of_ordered name (.refl _) h

/-- For ASCII labels, no table is needed to tell the constants apart. -/
theorem legible_family {name : String} {members : List (String × UInt64)}
    (hascii : members.all (fun m => m.1.toList.all fun c => Nat.blt c.toNat 0x80) = true)
    (hconstants :
      (members.map fun m => (m.1.toList.map Char.toUpper).filter Naming.isKept).Nodup)
    (hlabels : (members.map (·.1)).Nodup)
    (hapart : ∀ m ∈ members, ¬(name ++ "_0x").toList <+: m.1.toList) :
    (family name members).Legible := by
  have hperm := Family.members_ofMembers_perm name (members.map fun m => ⟨m.1, m.2⟩)
  refine ⟨?_, ?_, ?_⟩
  · -- what the constants begin with is the same for all
    have htails : ∀ m ∈ members,
        (Member.constant name ⟨m.1, m.2⟩).toList.drop (name ++ "_").length =
          (m.1.toList.map Char.toUpper).filter Naming.isKept := by
      intro m hm
      have hlabel : ∀ c ∈ m.1.toList, c.toNat < 0x80 := by
        simpa using List.all_eq_true.1 hascii m hm
      rw [Member.constant, String.toList_append, ← String.length_toList, List.drop_left,
        String.toList_ofList, Naming.sanitize_of_ascii hlabel]
    rw [← List.map_congr_left htails] at hconstants
    rw [family, (hperm.map _).nodup_iff, List.map_map]
    refine List.Nodup.of_map (fun s => s.toList.drop (name ++ "_").length) ?_
    rw [List.map_map]
    exact hconstants
  · rw [family, (hperm.map _).nodup_iff, List.map_map]
    exact hlabels
  · intro m hm
    obtain ⟨e, he, rfl⟩ := List.mem_map.1 (hperm.mem_iff.1 hm)
    exact hapart e he

theorem legible_mediaKind : mediaKind.Legible :=
  legible_family (by decide +kernel) (by decide +kernel) (by decide +kernel) (by decide +kernel)

theorem legible_loveStatus : loveStatus.Legible :=
  legible_family (by decide +kernel) (by decide +kernel) (by decide +kernel) (by decide +kernel)

theorem legible_field : field.Legible :=
  legible_family (by decide +kernel) (by decide +kernel) (by decide +kernel) (by decide +kernel)

theorem readText_of_stringText {t rest : List Char} {s : String} (h : StringText t s) :
    readText (t ++ rest) = decided (.ok s) rest rest := by
  rw [readText, readStringValue_of_stringText h]
  simp only [bind, Except.bind, String.ofList_toList]
  rfl

/-- Only labels are read as a code. -/
theorem declares_of_readValue {f : Family} (h : f.Legible) {s rest : List Char} {v : UInt64}
    (hread : (code f).readValue s = .ok (v, rest)) : f.Declares v := by
  obtain ⟨label, -, hlabel⟩ := ((code f).readValue_eq_ok_iff s rest v).1 hread
  exact ⟨_, (f.fromName?_eq_some_iff .u32 h.constants h.labels _ v).1 hlabel, rfl⟩

theorem declares_of_readField {f : Family} (h : f.Legible) {name : String}
    {present code? : Option UInt64} {s rest : List Char}
    (hread : readField name present (code f).readValue s = .ok (code?, rest)) :
    ∀ v ∈ code?, f.Declares v := by
  obtain ⟨v, r, rfl, hvalue⟩ := readField_eq_ok hread
  rintro _ ⟨rfl⟩
  exact declares_of_readValue h hvalue

theorem declares_of_readElement {f : Family} (h : f.Legible) {expected : String} {count : Nat}
    {s rest : List Char} {v : UInt64}
    (hread : readElement expected count (code f).readValue s = .ok (v, rest)) : f.Declares v := by
  obtain ⟨r, hvalue⟩ := readElement_eq_ok hread
  exact declares_of_readValue h hvalue

end Sample

end EnumForge
