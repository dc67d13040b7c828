import EnumForge.Choice
import EnumForge.Text.Quoted
import EnumForge.Toml.Value

namespace EnumForge.Toml.Value

open EnumForge.Text

/-- Wording for a whole number; one that no word of 64 bits holds names the word that does. -/
def describeInteger (n : Int) : String :=
  if -Int.pow 2 63 ≤ n ∧ n < Int.pow 2 64 then s!"integer `{n}`"
  else if n < Int.pow 2 127 then s!"integer `{n}` as i128"
  else s!"integer `{n}` as u128"

/-- Wording for a number that cannot be held. -/
def overflowMessage : String := "number overflowed"

/-- Wording for a value that stands where another kind is expected. -/
def mismatch (value : Value) (expected : String) : String :=
  let told := fun found => s!"invalid type: {found}, expected {expected}"
  match value with
  | .string s => told s!"string {quoted s}"
  | .integer n => told (describeInteger n)
  | .overflow => overflowMessage
  | .real x => told s!"floating point `{x.text}`"
  | .bool b => told s!"boolean `{b}`"
  | .time => told "map"
  | .array _ => told "sequence"
  | .table _ => told "map"

def asText : Value → Except String String
  | .string s => .ok s
  | value => .error (value.mismatch "a string")

def asBool : Value → Except String Bool
  | .bool b => .ok b
  | value => .error (value.mismatch "a boolean")

/-- Takes a value that nothing asks for: the numbers in it must still be held. -/
def passOver (value : Value) : Except String Unit :=
  if value.isHeld then .ok () else .error overflowMessage

def namedChoice (α : Type) [Choice α] (name : String) : Except String α :=
  match Choice.ofName? α name with
  | some a => .ok a
  | none => .error (Choice.unknown α name)

/-- A setting is given by its name, or by a table that has the name for its only key and nothing
under it. -/
def asChoice (α : Type) [Choice α] : Value → Except String α
  | .string name => namedChoice α name
  | .table [(name, content)] => do
    let a ← namedChoice α name
    match content with
    | .table [] => return a
    | .array [] => return a
    | _ => throw "expected an empty table"
  | .table _ => .error "wanted exactly 1 element"
  | _ => .error "wanted string or table"

end EnumForge.Toml.Value
