import EnumForge.Choice
import EnumForge.Config.Mismatch
import EnumForge.Table.Keys
import EnumForge.Validation

namespace EnumForge

open Toml

/-- What a run reads and writes, and how. -/
structure Settings where
  inputPath : String
  outputPath : String
  width : Width
  formatter : FormatterKind
  policy : FailurePolicy
  allowSharedValues : Bool
deriving DecidableEq, Repr

namespace Settings

protected def default : Settings where
  inputPath := "enums.json"
  outputPath := "enums.rs"
  width := .default
  formatter := .default
  policy := .default
  allowSharedValues := true

/-- Shape of the code that a run generates. -/
def options (s : Settings) : Options := ⟨s.width, s.allowSharedValues⟩

/-- Keys of the settings, in the order in which a list gives their values. -/
def keys : List String :=
  ["input_path", "output_path", "repr", "formatter", "on_format_error", "allow_duplicate_values"]

/-- Gives the setting of a key its value; other keys are passed over. -/
def assign (s : Settings) (key : String) (value : Value) : Except String Settings :=
  match key with
  | "input_path" => do return { s with inputPath := ← value.asText }
  | "output_path" => do return { s with outputPath := ← value.asText }
  | "repr" => do return { s with width := ← value.asChoice Width }
  | "formatter" => do return { s with formatter := ← value.asChoice FormatterKind }
  | "on_format_error" => do return { s with policy := ← value.asChoice FailurePolicy }
  | "allow_duplicate_values" => do return { s with allowSharedValues := ← value.asBool }
  | _ => do
    value.passOver
    return s

def assignAll (s : Settings) (entries : List (String × Value)) : Except String Settings :=
  entries.foldlM (fun s e => s.assign e.1 e.2) s

/-- Settings that a value gives. The keys of a table are looked at in ascending order. -/
def ofValue : Value → Except String Settings
  | .table entries => assignAll .default (resolveKeys entries)
  | .array items => assignAll .default (keys.zip items)
  | .time => .ok .default
  | value => .error (value.mismatch "struct GenerateConfig")

/-- Settings that a document gives under the key `generate`. Its keys are looked at in ascending
order too. -/
def ofDocument (document : List (String × Value)) : Except String Settings :=
  (resolveKeys document).foldlM (fun s e => do
    if e.1 = "generate" then ofValue e.2
    else
      e.2.passOver
      return s) .default

end Settings

end EnumForge
