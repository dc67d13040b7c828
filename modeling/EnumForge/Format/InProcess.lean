import EnumForge.Format.Canonical
import EnumForge.Source.Grammar.Program
import EnumForge.Source.Shape.Program

namespace EnumForge

open Source

/-- Lines of a text without their ends; a carriage return before a line feed is part of the end. -/
def sourceLinesFrom (line : List Char) : List Char → List (List Char)
  | [] => if line.isEmpty then [] else [line.reverse]
  | '\r' :: '\n' :: s => line.reverse :: sourceLinesFrom [] s
  | '\n' :: s => line.reverse :: sourceLinesFrom [] s
  | c :: s => sourceLinesFrom (c :: line) s

def sourceLines (s : List Char) : List (List Char) := sourceLinesFrom [] s

/-- Whether a line is a comment, and none that documents what follows it. -/
def isHeaderLine (line : List Char) : Bool :=
  ['/', '/'].isPrefixOf line && !(['/', '/', '/'].isPrefixOf line)

/-- The lines of comment at the head of a source, and an empty line after them. -/
def sourceHeader (s : List Char) : List Char :=
  let lines := (sourceLines s).takeWhile isHeaderLine
  if lines.isEmpty then [] else lines.flatMap (· ++ ['\n']) ++ ['\n']

/-- Writes out what `format` makes of a source, after the header of the source. -/
def withHeader (format : List Char → Except FormatFault String) (source : String) :
    Except FormatFault String :=
  (format source.toList).map fun text => String.ofList (sourceHeader source.toList) ++ text

/-- The text of the program that a source holds. A source that holds none is refused; formatting
breaks off where a construct has no written form. Sources are refused for one reason here: which
rule of the grammar a source breaks, and where, is left out of the message. -/
def formatProgram (source : List Char) : Except FormatFault String :=
  match Program.parse? source with
  | none => .error (.refused "the source is no program")
  | some p =>
    match p.text? with
    | some text => .ok text
    | none => .error .brokenOff

def Formatter.inProcess : Formatter where
  name := "prettyplease"
  apply := withHeader formatProgram

end EnumForge
