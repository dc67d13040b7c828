import EnumForge.Choice
import EnumForge.Error

namespace EnumForge

/-- Why a formatter gives no text: it refuses the source for some reason, or it breaks off on a
construct that it cannot write. -/
inductive FormatFault
  | refused (reason : String)
  | brokenOff
deriving DecidableEq, Repr

/-- A formatter: its name, and what it makes of a text or why it fails. -/
structure Formatter where
  name : String
  apply : String → Except FormatFault String

/-- Leaves a text as it is. -/
def Formatter.passThrough : Formatter := ⟨"none", .ok⟩

/-- A text after formatting; `fellBack` says that the formatter failed and the text is unformatted.
-/
structure Canonical where
  text : String
  fellBack : Bool
deriving DecidableEq, Repr

/-- Formats a text under a policy. A formatter that breaks off fails under every policy. -/
def canonicalize (formatter : Formatter) (source : String) (policy : FailurePolicy) :
    Checked Failure Canonical :=
  match formatter.apply source with
  | .ok text => .ok ⟨text, false⟩
  | .error .brokenOff => .error .unformattable
  | .error (.refused reason) =>
    let error := Error.format formatter.name reason
    match policy with
    | .raw => ⟨[.formatterFailed formatter.name error], .ok ⟨source, true⟩⟩
    | .fail => .error (.reported error)

end EnumForge
