import EnumForge.Emit.FamilyCode
import EnumForge.Error
import EnumForge.Text.Padding

namespace EnumForge.FamilyCode

open EnumForge.Text

/-- The text that stands for a value without a label. -/
def fallback (code : FamilyCode) (value : UInt64) : String :=
  s!"{code.name}_{Error.hexText value}"

/-- How a value is shown. -/
def display (code : FamilyCode) (value : UInt64) : String :=
  (code.name? value).getD (code.fallback value)

/-- The pieces that a value is shown in, from left to right: a label is one piece, and the digits of
any other value come after the text that does not change. -/
def pieces (code : FamilyCode) (value : UInt64) : List String :=
  match code.name? value with
  | some label => [label]
  | none => [code.name ++ "_0x", String.ofList (hexUpper value.toNat)]

/-- How a value is shown in a field: labels are cut and filled up, other values take no notice. -/
def format (code : FamilyCode) (field : Field) (value : UInt64) : String :=
  match code.name? value with
  | some label => String.ofList (field.pad label.toList)
  | none => code.fallback value

def debug (code : FamilyCode) (value : UInt64) : String := s!"{code.name}({value.toNat})"

theorem display_of_name? {code : FamilyCode} {value : UInt64} {label : String}
    (h : code.name? value = some label) : code.display value = label := by
  simp [display, h]

end EnumForge.FamilyCode
