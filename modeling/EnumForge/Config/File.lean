import EnumForge.Config.Reference
import EnumForge.Config.Settings
import EnumForge.Toml.Document
import EnumForge.World.Path

namespace EnumForge

/-- Settings, and the directory that their paths are relative to. -/
structure Config where
  settings : Settings
  baseDir : String
deriving DecidableEq, Repr

namespace Config

def fileName : String := "enumgen.toml"

/-- Without a file all settings have their defaults. -/
def defaultsIn (baseDir : String) : Config := ⟨.default, baseDir⟩

/-- Settings that a text gives, before references are resolved. All texts that are no document have
one fault here: which rule such a text breaks, and where, is left out of the message, and so is the
place of a value that does not suit its setting. -/
def settingsOfText (text : String) : Except Error Settings :=
  match Toml.parse? text with
  | none => .error (.toml "the document is not TOML")
  | some document => (Settings.ofDocument document).mapError .toml

/-- The configuration that a text gives; references in the two paths are resolved, the input's
first. -/
def ofText (env : String → Option String) (text baseDir : String) : Checked Error Config := do
  let s ← Checked.ofExcept (settingsOfText text)
  let input ← resolveReferences env s.inputPath
  let output ← resolveReferences env s.outputPath
  return ⟨{ s with inputPath := input, outputPath := output }, baseDir⟩

/-- Settings with paths that no longer depend on the base directory. -/
def resolved (c : Config) : Settings :=
  { c.settings with
    inputPath := Path.join c.baseDir c.settings.inputPath
    outputPath := Path.join c.baseDir c.settings.outputPath }

end Config

end EnumForge
