import EnumForge.Format.Canonical
import EnumForge.Text.Utf8
import EnumForge.Unicode.WhiteSpace
import EnumForge.World.Signal

namespace EnumForge.External

open EnumForge.Text EnumForge.Unicode

/-- How a program ended: it did not start, or after printing some bytes a signal killed it or it
left with a status. -/
inductive Outcome
  | notStarted (cause : FileError)
  | killed (signal : Signal) (stderr : List UInt8)
  | exited (status : Nat) (stdout stderr : List UInt8)
deriving DecidableEq, Repr

def arguments (edition : String) : List String := ["--edition", edition]

def defaultEdition : String := "2021"

def defaultProgram : String := "rustfmt"

def isBlankText (s : List Char) : Bool := s.all isWhiteSpace

/-- What a program printed on its way to failing, without blanks around it. -/
def complaint (stderr : List UInt8) : String := String.ofList (trim (ofUtf8Lossy stderr))

/-- What the outcome of a program means for the text it was given. -/
def judge (program source : String) : Outcome → Except String String
  | .notStarted cause => .error s!"failed to start {quoted program}: {cause.message}"
  | .killed signal stderr => .error s!"exited with signal: {signal.text}: {complaint stderr}"
  | .exited status stdout stderr =>
    if status ≠ 0 then .error s!"exited with exit status: {status}: {complaint stderr}"
    else
      match ofUtf8 stdout with
      | .error e => .error e.message
      | .ok text =>
        if isBlankText text && !isBlankText source.toList then .error "produced no output"
        else .ok (String.ofList text)

/-- The formatter that runs a program; `run` tells how it ends when it reads the given bytes. -/
def formatter (program : String) (run : List UInt8 → Outcome) : Formatter where
  name := "rustfmt"
  apply := fun source => (judge program source (run (utf8 source.toList))).mapError .refused

end EnumForge.External
