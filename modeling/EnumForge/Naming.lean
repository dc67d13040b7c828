import EnumForge.Error
import EnumForge.Source.Lexer
import EnumForge.Unicode.Uppercase

namespace EnumForge.Naming

open EnumForge.Source EnumForge.Unicode

/-- Characters that a sanitized label keeps: ASCII letters, digits and the underscore. -/
def isKept (c : Char) : Bool := c.isAlphanum || c == '_'

/-- A label in upper case without the characters that an ASCII identifier cannot hold. -/
def sanitize (label : List Char) : List Char := (uppercase label).filter isKept

/-- Name of a member's constant, unless nothing of the label is left. -/
def constantName (family label : String) : Except Error String :=
  match sanitize label.toList with
  | [] => .error (.emptyIdentifier family label)
  | tail => .ok (family ++ "_" ++ String.ofList tail)

/-- Names that the preamble of generated code defines or imports. -/
def preambleNames : List String :=
  ["EnumTextError", "fmt", "de", "Serialize", "Serializer", "Deserialize", "Deserializer"]

/-- Primitive types, which a type of the same name would hide. -/
def primitiveTypes : List String :=
  ["bool", "char", "str", "u8", "u16", "u32", "u64", "u128", "usize", "i8", "i16", "i32", "i64",
   "i128", "isize", "f32", "f64"]

/-- Words that became keywords after the lexer's list was made. -/
def newKeywords : List String := ["gen"]

/-- Whether a text is read as one identifier; blanks and comments around it go unnoticed. -/
def readsAsIdentifier (name : String) : Bool :=
  match tokens? name.toList with
  | some [.word w] => !keywords.contains w
  | _ => false

/-- Checks that a family may give its name to a type. -/
def checkFamilyName (name : String) : Except Error Unit :=
  if preambleNames.contains name || primitiveTypes.contains name then .error (.reservedName name)
  else if ['r', '#'].isPrefixOf name.toList || newKeywords.contains name ||
      !readsAsIdentifier name then .error (.invalidFamilyName name)
  else .ok ()

theorem sanitize_append (a b : List Char) : sanitize (a ++ b) = sanitize a ++ sanitize b := by
  simp [sanitize, uppercase_append]

theorem isKept_of_mem_sanitize {c : Char} {label : List Char} (h : c ∈ sanitize label) :
    isKept c = true := by
  simpa using (List.mem_filter.1 h).2

end EnumForge.Naming
