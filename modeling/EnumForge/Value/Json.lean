import EnumForge.Json.Record
import EnumForge.Value.Text

namespace EnumForge

open Json

/-- Why a text is no value of a family. -/
inductive TextError
  | malformed (error : Json.Error)
  | unknownLabel (family label : String)
deriving DecidableEq, Repr

namespace TextError

def message : TextError → String
  | malformed error => s!"malformed enum text: {error.message}"
  | unknownLabel family label => s!"unknown {family} {label}"

/-- The family that an unknown label was looked for in. -/
def family? : TextError → Option String
  | malformed _ => none
  | unknownLabel family _ => some family

def label? : TextError → Option String
  | malformed _ => none
  | unknownLabel _ label => some label

/-- The failure that lies under a text error. -/
def source? : TextError → Option Json.Error
  | malformed error => some error
  | unknownLabel .. => none

end TextError

namespace FamilyCode

def ofLabel (code : FamilyCode) (label : String) : Except TextError UInt64 :=
  match code.fromName? label with
  | some value => .ok value
  | none => .error (.unknownLabel code.name label)

/-- A value as a JSON string. -/
def json (code : FamilyCode) (value : UInt64) : String :=
  stringText (code.display value)

/-- A value as a JSON string that is written while the value is shown, piece after piece. -/
def serialized (code : FamilyCode) (value : UInt64) : String := piecesText (code.pieces value)

/-- The value of a JSON document that is a label. -/
def ofJson (code : FamilyCode) (text : String) : Except TextError UInt64 := do
  let label ← (readDocument readStringValue text).mapError .malformed
  code.ofLabel (String.ofList label)

/-- Reads a value inside a JSON document. -/
def readValue (code : FamilyCode) (s : List Char) : Except Fault (UInt64 × List Char) := do
  let (label, rest) ← readStringValue s
  match code.fromName? (String.ofList label) with
  | some value => .ok (value, rest)
  | none => .error (.loose (.unknownLabel code.name (String.ofList label)) rest)

/-- The value of a JSON document, where an unknown label is a fault of the document. -/
def ofDocument (code : FamilyCode) (text : String) : Except Json.Error UInt64 :=
  readDocument code.readValue text

end FamilyCode

end EnumForge
