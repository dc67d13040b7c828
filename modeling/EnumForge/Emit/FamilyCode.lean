import EnumForge.Naming
import EnumForge.Table.Family

/-!
What the generated code of a family holds, apart from how it is written: its tables, the arms of its
two look-ups, and its constants. The look-ups can be carried out here as the generated code would:
the first arm that matches decides, and `from_name` goes through the constants.
-/

namespace EnumForge

open Naming

/-- Tables and look-ups of a family's generated code. -/
structure FamilyCode where
  name : String
  width : Width
  names : List (UInt64 × String)
  values : List (String × UInt64)
  nameArms : List (UInt64 × String)
  fromNameArms : List (String × String)
  constants : List (String × UInt64)
deriving DecidableEq, Repr

/-- Name of a member's constant, valid or not. -/
def Member.constant (family : String) (m : Member) : String :=
  family ++ "_" ++ String.ofList (sanitize m.label.toList)

/-- Members of a sorted list that no later member shares its value with. -/
def lastOfValue : List Member → List Member
  | a :: b :: rest =>
    if a.value = b.value then lastOfValue (b :: rest) else a :: lastOfValue (b :: rest)
  | rest => rest

/-- The code of a family: tables and constants hold every member, a value is named by its last
label, and each label leads to its member's constant. -/
def Family.code (width : Width) (f : Family) : FamilyCode where
  name := f.name
  width := width
  names := f.members.map fun m => (m.value, m.label)
  values := f.members.map fun m => (m.label, m.value)
  nameArms := (lastOfValue f.members).map fun m => (m.value, m.label)
  fromNameArms := f.members.map fun m => (m.label, m.constant f.name)
  constants := f.members.map fun m => (m.constant f.name, m.value)

namespace FamilyCode

/-- The label that the code gives a value. -/
def name? (code : FamilyCode) (value : UInt64) : Option String := code.nameArms.lookup value

/-- The value that the code gives a label. -/
def fromName? (code : FamilyCode) (label : String) : Option UInt64 :=
  (code.fromNameArms.lookup label).bind fun constant => code.constants.lookup constant

/-- Names that the code defines as items. -/
def identifiers (code : FamilyCode) : List String := code.name :: code.constants.map (·.1)

end FamilyCode

end EnumForge
