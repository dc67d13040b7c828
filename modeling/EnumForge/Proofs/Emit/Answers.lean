import EnumForge.Proofs.Emit.Lookup
import EnumForge.Proofs.Emit.Tables

namespace EnumForge

open Emit

/-- The constants of generated code, each with its type and its value. -/
def Library.constants (width : Width) (library : Library) : List (String × (String × UInt64)) :=
  library.families.flatMap fun f =>
    (f.code width).constants.map fun e => (e.1, (f.name, e.2))

/-- The constant that a family's code gives for a label, among the constants of the whole file. -/
def Library.fromName? (width : Width) (library : Library) (f : Family) (label : String) :
    Option (String × UInt64) :=
  ((f.code width).fromNameArms.lookup label).bind fun constant =>
    (library.constants width).lookup constant

namespace Library.Accepted

variable {library : Library} {options : Options} {f : Family}

end Library.Accepted

/-- What a family's code in the code of a library holds and answers, in terms of the members of the
family. Values are those of the widest integer type, so all values of the width are among them. -/
structure Library.Answers (library : Library) (width : Width) (f : Family) : Prop where
  /-- A value is named by the greatest label that was declared for it. -/
  name_some : ∀ v l, (f.code width).name? v = some l ↔ f.Greatest v l
  name_none : ∀ v, (f.code width).name? v = none ↔ ∀ m ∈ f.members, m.value ≠ v
  /-- A label means the value that was declared with it. -/
  fromName_some : ∀ s v, (f.code width).fromName? s = some v ↔ ⟨s, v⟩ ∈ f.members
  fromName_none : ∀ s, (f.code width).fromName? s = none ↔ ∀ m ∈ f.members, m.label ≠ s
  /-- The constants of other families change nothing. -/
  in_file : ∀ s, library.fromName? width f s =
    ((f.code width).fromName? s).map fun v => (f.name, v)
  fromName_name : ∀ m ∈ f.members,
    ((f.code width).name? m.value).bind (f.code width).fromName? = some m.value
  arms_distinct : ((f.code width).nameArms.map (·.1)).Nodup
  /-- Each member is an entry of the table of labels, and each entry stands before the next. -/
  mem_names : ∀ m : Member, (m.value, m.label) ∈ (f.code width).names ↔ m ∈ f.members
  names_ascending : (f.code width).names.Pairwise Entry.Before
  values_eq : (f.code width).values = (f.code width).names.map Prod.swap
  /-- The numbers in the text are those of the two tables, the arms and the constants. -/
  numbers_eq : numbers (f.tokens width) =
    f.members.map Member.value ++ f.members.map Member.value ++
      (lastOfValue f.members).map Member.value ++ f.members.map Member.value
  numbers_fit : ∀ v ∈ numbers (f.tokens width), width.fits v = true
  numbers_read : ∀ v ∈ numbers (f.tokens width),
    Source.wholeValue? (Token.number v).render.toList = some v.toNat

end EnumForge
