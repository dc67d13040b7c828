import EnumForge.Text.Quoted

namespace EnumForge.Json

open EnumForge.Text

/-- A value that stands where another kind of value belongs. -/
inductive Found
  | null
  | bool (b : Bool)
  | integer (text : String)
  | real (text : String)
  | string (s : String)
  | list
  | object
deriving DecidableEq, Repr

def Found.describe : Found → String
  | .null => "null"
  | .bool b => "boolean `" ++ (if b then "true" else "false") ++ "`"
  | .integer text => "integer `" ++ text ++ "`"
  | .real text => "floating point `" ++ text ++ "`"
  | .string s => "string " ++ quoted s
  | .list => "sequence"
  | .object => "map"

/-- Causes of failure: of the text, and from `invalidType` on of the data that it holds. -/
inductive Cause
  | endInList
  | endInObject
  | endInString
  | endInValue
  | expectedColon
  | expectedListCommaOrEnd
  | expectedObjectCommaOrEnd
  | expectedWord
  | expectedValue
  | invalidEscape
  | invalidNumber
  | numberOutOfRange
  | controlCharacter
  | keyMustBeString
  | loneSurrogate
  | trailingComma
  | trailingCharacters
  | unfinishedSurrogatePair
  | invalidType (found : Found) (expected : String)
  | unknownLabel (family label : String)
  | missingField (name : String)
  | duplicateField (name : String)
  | invalidLength (length : Nat) (expected : String)
deriving DecidableEq, Repr

def Cause.message : Cause → String
  | .endInList => "EOF while parsing a list"
  | .endInObject => "EOF while parsing an object"
  | .endInString => "EOF while parsing a string"
  | .endInValue => "EOF while parsing a value"
  | .expectedColon => "expected `:`"
  | .expectedListCommaOrEnd => "expected `,` or `]`"
  | .expectedObjectCommaOrEnd => "expected `,` or `\x7d`"
  | .expectedWord => "expected ident"
  | .expectedValue => "expected value"
  | .invalidEscape => "invalid escape"
  | .invalidNumber => "invalid number"
  | .numberOutOfRange => "number out of range"
  | .controlCharacter => "control character (\\u0000-\\u001F) found while parsing a string"
  | .keyMustBeString => "key must be a string"
  | .loneSurrogate => "lone leading surrogate in hex escape"
  | .trailingComma => "trailing comma"
  | .trailingCharacters => "trailing characters"
  | .unfinishedSurrogatePair => "unexpected end of hex escape"
  | .invalidType found expected => s!"invalid type: {found.describe}, expected {expected}"
  | .unknownLabel family label => s!"unknown {family} {label}"
  | .missingField name => s!"missing field `{name}`"
  | .duplicateField name => s!"duplicate field `{name}`"
  | .invalidLength length expected => s!"invalid length {length}, expected {expected}"

/-- Whether the text is JSON but its data do not fit. -/
def Cause.isData : Cause → Bool
  | .invalidType .. | .unknownLabel .. | .missingField .. | .duplicateField ..
  | .invalidLength .. => true
  | _ => false

/-- A fault while reading: its place is the number of bytes that follow it; a loose fault keeps the
text that was still to be read. -/
inductive Fault
  | placed (cause : Cause) (bytesAfter : Nat)
  | loose (cause : Cause) (rest : List Char)
deriving DecidableEq, Repr

def byteCount (s : List Char) : Nat := s.foldr (fun c n => c.utf8Size + n) 0

/-- A fault at the head of the rest. -/
def Fault.here (cause : Cause) (rest : List Char) : Fault := .placed cause (byteCount rest)

/-- A fault just after the next byte of the rest, or at its end. -/
def Fault.next (cause : Cause) (rest : List Char) : Fault := .placed cause (byteCount rest - 1)

/-- Places a loose fault where `skip` leaves off. -/
def Fault.settle (skip : List Char → List Char) : Fault → Fault
  | .placed cause n => .placed cause n
  | .loose cause rest => .placed cause (byteCount (skip rest))

/-- A place in a document: lines count from one, columns count the bytes before it in its line. -/
structure Place where
  line : Nat
  column : Nat
deriving DecidableEq, Repr

/-- The place one byte further. -/
def Place.advance (p : Place) (b : UInt8) : Place :=
  if b = 10 then ⟨p.line + 1, 0⟩ else ⟨p.line, p.column + 1⟩

/-- The place that a number of bytes follow. -/
def placeBefore (document : List Char) (bytesAfter : Nat) : Place :=
  let bytes := document.flatMap String.utf8EncodeChar
  (bytes.take (bytes.length - bytesAfter)).foldl Place.advance ⟨1, 0⟩

structure Error where
  cause : Cause
  place : Option Place
deriving DecidableEq, Repr

/-- The failure that a fault means for its document. -/
def Fault.toError (document : List Char) : Fault → Error
  | .placed cause n => ⟨cause, some (placeBefore document n)⟩
  | .loose cause _ => ⟨cause, none⟩

def Error.message (e : Error) : String :=
  match e.place with
  | none => e.cause.message
  | some p => s!"{e.cause.message} at line {p.line} column {p.column}"

end EnumForge.Json
