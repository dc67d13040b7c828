import EnumForge.Proofs.Generation
import EnumForge.Proofs.Text.ByteOrder
import EnumForge.Proofs.Text.Hexadecimal

namespace EnumForge

open Emit Text

/-- Order of the entries of a table of labels by value. -/
def Entry.Before (a b : UInt64 × String) : Prop :=
  a.1 < b.1 ∨ a.1 = b.1 ∧ utf8 a.2.toList < utf8 b.2.toList

theorem Family.names_ascending (width : Width) (f : Family)
    (hl : (f.members.map Member.label).Nodup) :
    (f.code width).names.Pairwise Entry.Before := by
  refine List.pairwise_map.2 ((f.sorted.and (List.pairwise_map.1 hl)).imp ?_)
  rintro a b ⟨hle, hne⟩
  rcases (Member.le_iff a b).1 hle with hlt | ⟨heq, hlabel⟩
  · exact .inl hlt
  · refine .inr ⟨heq, (utf8_lt_iff _ _).2 ?_⟩
    by_contra hlt
    exact hne (String.le_antisymm hlabel (String.not_lt.1 hlt))

theorem Family.mem_names_iff (width : Width) (f : Family) (m : Member) :
    (m.value, m.label) ∈ (f.code width).names ↔ m ∈ f.members := by
  simp only [code, List.mem_map, Prod.mk.injEq]
  constructor
  · rintro ⟨⟨l, v⟩, hm, rfl, rfl⟩
    exact hm
  · exact fun hm => ⟨m, hm, rfl, rfl⟩

namespace Emit

/-- Numbers that are written among some tokens, from left to right. -/
def numbers (ts : List Token) : List UInt64 :=
  ts.filterMap fun
    | .number v => some v
    | _ => none

@[simp] theorem numbers_append (a b : List Token) : numbers (a ++ b) = numbers a ++ numbers b :=
  List.filterMap_append

@[simp] theorem numbers_nil : numbers [] = [] := by
  simp [numbers]

@[simp] theorem numbers_number (v : UInt64) (ts : List Token) :
    numbers (.number v :: ts) = v :: numbers ts := by
  simp [numbers]

@[simp] theorem numbers_word (w : String) (ts : List Token) :
    numbers (.word w :: ts) = numbers ts := by
  simp [numbers]

@[simp] theorem numbers_doc (d : String) (ts : List Token) :
    numbers (.doc d :: ts) = numbers ts := by
  simp [numbers]

@[simp] theorem numbers_text (s : String) (ts : List Token) :
    numbers (.text s :: ts) = numbers ts := by
  simp [numbers]

@[simp] theorem numbers_constant (c : String) (ts : List Token) :
    numbers (.constant c :: ts) = numbers ts := by
  simp [numbers]

@[simp] theorem numbers_ty (code : FamilyCode) (ts : List Token) :
    numbers (code.ty :: ts) = numbers ts := by
  simp [numbers, FamilyCode.ty]

@[simp] theorem numbers_int (code : FamilyCode) (ts : List Token) :
    numbers (code.int :: ts) = numbers ts := by
  simp [numbers, FamilyCode.int]

@[simp] theorem numbers_words (text : String) : numbers (words text) = [] := by
  simp [numbers, words]

@[simp] theorem numbers_braces (ts : List Token) : numbers (braces ts) = numbers ts := by
  simp [braces]

@[simp] theorem numbers_docs (text : String) : numbers (docs text) = [] := by
  simp [docs]

@[simp] theorem numbers_literal (code : FamilyCode) (v : UInt64) :
    numbers (code.literal v) = [v] := by
  simp [FamilyCode.literal]

end Emit

namespace FamilyCode

variable (code : FamilyCode)

end FamilyCode

end EnumForge
