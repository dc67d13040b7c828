import EnumForge.Emit.Preamble
import EnumForge.Emit.FamilyTokens
import EnumForge.Validation

namespace EnumForge

open Emit

def Family.tokens (width : Width) (f : Family) : List Token := (f.code width).tokens

/-- Tokens of the code for a library, whether or not its names are identifiers. -/
def Library.tokens (width : Width) (library : Library) : List Token :=
  preamble ++ library.families.flatMap (Family.tokens width)

/-- Names that the code for a library defines, but for those of the fixed part. -/
def Library.identifiers (width : Width) (library : Library) : List String :=
  library.families.flatMap fun f => (f.code width).identifiers

/-- Tokens of the code for a library whose names are all identifiers. -/
def emit (library : Library) (width : Width) : Except Failure (List Token) :=
  match (library.identifiers width).find? (!Source.isIdentifier ·) with
  | some name => .error (.unemittable name)
  | none => .ok (library.tokens width)

/-- Text of the code for a library, once it is valid. -/
def generate (library : Library) (options : Options) : Checked Failure String := do
  (validate library options).mapError .reported
  let tokens ← Checked.ofExcept (emit library options.width)
  return header ++ render tokens ++ "\n"

end EnumForge
