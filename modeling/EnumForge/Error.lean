import EnumForge.Json.Fault
import EnumForge.Table.Width

namespace EnumForge

open EnumForge.Text

/-- Phases of a run that an error may belong to. -/
inductive Stage
  | config
  | load
  | generate
  | format
  | write
deriving DecidableEq, Repr

def Stage.name : Stage → String
  | config => "config"
  | load => "load"
  | generate => "generate"
  | format => "format"
  | write => "write"

/-- Why a file could not be read or written. -/
inductive FileError
  | missing
  | permission
  | alreadyExists
  | notDirectory
  | isDirectory
  | notText
  | nameTooLong
  | holdsNul
  | notProgram
  | other (text : String)
deriving DecidableEq, Repr

def FileError.reason : FileError → String
  | missing => "No such file or directory"
  | permission => "Permission denied"
  | alreadyExists => "File exists"
  | notDirectory => "Not a directory"
  | isDirectory => "Is a directory"
  | nameTooLong => "File name too long"
  | holdsNul => "file name contained an unexpected NUL byte"
  | notProgram => "Exec format error"
  | notText => "stream did not contain valid UTF-8"
  | other text => text

/-- The number that the system gives a file error. -/
def FileError.number? : FileError → Option Nat
  | missing => some 2
  | notProgram => some 8
  | permission => some 13
  | alreadyExists => some 17
  | notDirectory => some 20
  | isDirectory => some 21
  | nameTooLong => some 36
  | _ => none

/-- Wording of a file error, with the number the system gives it. -/
def FileError.message (e : FileError) : String :=
  match e.number? with
  | some n => s!"{e.reason} (os error {n})"
  | none => e.reason

inductive Error
  | inputRead (path : String) (cause : FileError)
  | inputParse (path : String) (cause : Json.Error)
  | notAnInteger (family label value : String)
  | outOfRange (family label value : String) (width : Width)
  | invalidFamilyName (name : String)
  | reservedName (name : String)
  | emptyIdentifier (family label : String)
  | duplicateIdentifier (ident first second : String)
  | duplicateValue (family : String) (value : UInt64) (first second : String)
  | format (formatter message : String)
  | outputWrite (path : String) (cause : FileError)
  | config (message : String)
  | toml (message : String)
  | variableNotSet (name : String)
deriving DecidableEq, Repr

namespace Error

/-- The stage that the kind of an error belongs to. -/
def stage : Error → Stage
  | config _ | toml _ | variableNotSet _ => .config
  | inputRead .. | inputParse .. | notAnInteger .. => .load
  | outOfRange .. | invalidFamilyName _ | reservedName _ | emptyIdentifier ..
  | duplicateIdentifier .. | duplicateValue .. => .generate
  | format .. => .format
  | outputWrite .. => .write

/-- A value as it is written in messages and in generated code. -/
def hexText (value : UInt64) : String := String.ofList ('0' :: 'x' :: hexUpper value.toNat)

def message : Error → String
  | inputRead path cause => s!"failed to read input {path}: {cause.message}"
  | inputParse path cause => s!"failed to parse input {path}: {cause.message}"
  | notAnInteger family label value =>
    s!"value {value} of {family}.{quoted label} is not an integer"
  | outOfRange family label value width =>
    s!"value {value} of {family}.{quoted label} does not fit in {width.typeName}"
  | invalidFamilyName name => s!"invalid family name {quoted name}: not a Rust identifier"
  | reservedName name => s!"family name {quoted name} is reserved by the generated preamble"
  | emptyIdentifier family label =>
    s!"label {quoted label} in {family} sanitizes to an empty identifier"
  | duplicateIdentifier ident first second =>
    s!"identifier {ident} is generated twice (from {first} and {second})"
  | duplicateValue family value first second =>
    s!"{family} assigns {hexText value} to both {quoted first} and {quoted second}"
  | format formatter message => s!"formatter {formatter} failed: {message}"
  | outputWrite path cause => s!"failed to write output {path}: {cause.message}"
  | config message => s!"Configuration error: {message}"
  | toml message => s!"TOML error: {message}"
  | variableNotSet name => s!"Environment variable not set: {name}"

end Error

/-- Things worth a notice that do not stop a run. Notices of a run's progress are left out. -/
inductive Warning
  | sharedValue (family : String) (value : UInt64) (first second : String)
  | defaultUsed (name default : String)
  | formatterFailed (formatter : String) (error : Error)
deriving DecidableEq, Repr

def Warning.message : Warning → String
  | sharedValue family value first second =>
    s!"{family} assigns {Error.hexText value} to both {quoted first} and {quoted second}; " ++
      s!"rendering prefers {quoted second}"
  | defaultUsed name default =>
    s!"Environment variable {name} not set, using default: {default}"
  | formatterFailed formatter error =>
    s!"Formatter {formatter} failed, writing unformatted source: {error.message}"

/-- The outcome of a step that may warn before it succeeds or fails. -/
structure Checked (ε α : Type) where
  warnings : List Warning
  result : Except ε α

namespace Checked

def ok {ε α : Type} (a : α) : Checked ε α := ⟨[], .ok a⟩

def error {ε α : Type} (e : ε) : Checked ε α := ⟨[], .error e⟩

def ofExcept {ε α : Type} (r : Except ε α) : Checked ε α := ⟨[], r⟩

def warn {ε : Type} (w : Warning) : Checked ε Unit := ⟨[w], .ok ()⟩

/-- Goes on after success; the warnings of both steps stay in order. -/
protected def bind {ε α β : Type} (x : Checked ε α) (f : α → Checked ε β) : Checked ε β :=
  match x.result with
  | .error e => ⟨x.warnings, .error e⟩
  | .ok a => ⟨x.warnings ++ (f a).warnings, (f a).result⟩

instance (ε : Type) : Monad (Checked ε) where
  pure := ok
  bind := Checked.bind

def mapError {ε δ α : Type} (f : ε → δ) (x : Checked ε α) : Checked δ α :=
  ⟨x.warnings, x.result.mapError f⟩

end Checked

/-- Why a run came to nothing: an error that it reports, or a fault that breaks it off. A name may
not be an identifier, a formatter may find a construct that it cannot write, and a variable may be
given a value that the environment cannot hold. -/
inductive Failure
  | reported (error : Error)
  | unemittable (name : String)
  | unformattable
  | unsettable (variableName : String)
deriving DecidableEq, Repr

end EnumForge
