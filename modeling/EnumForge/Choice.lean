import EnumForge.Table.Width

namespace EnumForge

/-- A setting: its values in the order they are listed, and their names. -/
class Choice (α : Type) where
  all : List α
  name : α → String

namespace Choice

variable (α : Type) [Choice α]

def ofName? (name : String) : Option α := (all : List α).find? fun a => Choice.name a == name

/-- Names between marks, with a comma between each two. -/
def listed : List String → String
  | [] => ""
  | [n] => s!"`{n}`"
  | n :: ns => s!"`{n}`, " ++ listed ns

/-- Wording for a name that no value has. -/
def unknown (name : String) : String :=
  let names := (all : List α).map Choice.name
  let expected :=
    match names with
    | [a, b] => s!"expected `{a}` or `{b}`"
    | _ => "expected one of " ++ listed names
  s!"unknown variant `{name}`, {expected}"

/-- Wording for a name that no value has, where the names are not listed. -/
def notFound : String := "Matching variant not found"

end Choice

instance : Choice Width := ⟨Width.all, Width.typeName⟩

/-- How generated code is formatted: not at all, by an external program, or in the same process. -/
inductive FormatterKind
  | none
  | external
  | inProcess
deriving DecidableEq, Repr

def FormatterKind.name : FormatterKind → String
  | none => "none"
  | external => "rustfmt"
  | inProcess => "prettyplease"

protected def FormatterKind.default : FormatterKind := .external

instance : Choice FormatterKind := ⟨[.none, .external, .inProcess], FormatterKind.name⟩

/-- What happens when a formatter fails: the unformatted text is kept, or the run fails. -/
inductive FailurePolicy
  | raw
  | fail
deriving DecidableEq, Repr

def FailurePolicy.name : FailurePolicy → String
  | raw => "raw"
  | fail => "fail"

protected def FailurePolicy.default : FailurePolicy := .raw

instance : Choice FailurePolicy := ⟨[.raw, .fail], FailurePolicy.name⟩

end EnumForge
