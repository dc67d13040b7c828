import EnumForge.Format.InProcess
import EnumForge.Run.Configuration
import EnumForge.Run.Log
import EnumForge.Run.Sink
import EnumForge.Table.Document
import EnumForge.World.Program

namespace EnumForge

open EnumForge.Text

structure Report where
  outputPath : String
  bytesWritten : Nat
  families : Nat
  members : Nat
  formatter : String
  fellBack : Bool
deriving DecidableEq, Repr

def World.formatter (w : World) : FormatterKind → Formatter
  | .none => .passThrough
  | .external => Program.formatter w (Program.formatterProgram w) External.defaultEdition
  | .inProcess => .inProcess

/-- The surroundings after a formatter of a kind has read a text: a program may change files. -/
def World.afterFormatting (w : World) (source : String) : FormatterKind → World
  | .external =>
    Program.afterFormatting w (Program.formatterProgram w) External.defaultEdition source
  | _ => w

def Library.ofPath (w : World) (path : String) : Except Error Library := do
  let text ← (w.readText path).mapError (.inputRead path)
  Library.ofText path text

namespace Run

def rawName : String := "raw_enums.rs"

/-- Writes a text to a file; the directories above it are made first if they are missing. -/
def writeOutput (path text : String) : Run Unit := changing (.outputWrite path) fun w =>
  let made : Tree × Except FileError Unit :=
    match (Path.parent? path).filter (!·.isEmpty) with
    | none => (w.tree, .ok ())
    | some parent => w.tree.makeDirectories w.cwd parent
  match made with
  | (tree, .error e) => (tree, .error e)
  | (tree, .ok ()) =>
    match tree.writeBytes w.cwd path false (utf8 text.toList) with
    | .ok tree => (tree, .ok ())
    | .error e => (tree, .error e)

/-- Reads a library, generates and formats its code, and writes it. Where `keepsRaw`, the
unformatted code is kept too. What formatting does to the surroundings is `trace`. -/
def generateFile (settings : Settings) (formatter : Formatter) (trace : String → World → World)
    (keepsRaw : Bool) : Run Report := do
  let library ← reporting (.ofExcept (Library.ofPath (← world) settings.inputPath))
  let source ← ofChecked (generate library settings.options)
  if keepsRaw then modify (·.log rawName source false)
  modify (trace source)
  let canonical ← ofChecked (canonicalize formatter source settings.policy)
  writeOutput settings.outputPath canonical.text
  return {
    outputPath := settings.outputPath
    bytesWritten := canonical.text.utf8ByteSize
    families := library.size
    members := library.memberCount
    formatter := formatter.name
    fellBack := canonical.fellBack }

def generateWith (settings : Settings) (keepsRaw : Bool) : Run Report := do
  let w ← world
  let trace := fun source (w : World) => w.afterFormatting source settings.formatter
  generateFile settings (w.formatter settings.formatter) trace keepsRaw

def build : Run Report := do generateWith (← buildSettings) true

end Run

end EnumForge
