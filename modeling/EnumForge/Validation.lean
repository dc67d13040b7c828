import EnumForge.Naming
import EnumForge.Table.Library

namespace EnumForge

open EnumForge.Text Naming

/-- Shape of the generated code: the integer width, and whether labels may share a value. -/
structure Options where
  width : Width
  allowSharedValues : Bool
deriving DecidableEq, Repr

protected def Options.default : Options := ⟨.default, true⟩

/-- Claimed names, each with what claimed it. -/
abbrev Claims := List (String × String)

def claim (claims : Claims) (ident origin : String) : Except Error Claims :=
  match claims.lookup ident with
  | some first => .error (.duplicateIdentifier ident first origin)
  | none => .ok ((ident, origin) :: claims)

/-- Checks that a member's value fits and claims its constant. -/
def checkMember (options : Options) (family : String) (claims : Claims) (m : Member) :
    Except Error Claims := do
  if !options.width.fits m.value then
    throw (.outOfRange family m.label (toString m.value.toNat) options.width)
  claim claims (← constantName family m.label) s!"{family}.{quoted m.label}"

/-- Warns of a shared value, or refuses it. -/
def checkAlias (options : Options) (family : String) (pair : Member × Member) :
    Checked Error Unit :=
  if options.allowSharedValues then
    .warn (.sharedValue family pair.1.value pair.1.label pair.2.label)
  else .error (.duplicateValue family pair.1.value pair.1.label pair.2.label)

def checkAliases (options : Options) (family : String) : List (Member × Member) →
    Checked Error Unit
  | [] => .ok ()
  | pair :: pairs => do
    checkAlias options family pair
    checkAliases options family pairs

/-- Checks a family: its name, then its members, then the values they share. -/
def checkFamily (options : Options) (claims : Claims) (f : Family) : Checked Error Claims := do
  let claims ← Checked.ofExcept <| do
    checkFamilyName f.name
    let claims ← claim claims f.name s!"family {f.name}"
    f.members.foldlM (checkMember options f.name) claims
  checkAliases options f.name f.aliases
  return claims

def checkFamilies (options : Options) (claims : Claims) : List Family → Checked Error Claims
  | [] => .ok claims
  | f :: fs => do checkFamilies options (← checkFamily options claims f) fs

/-- Checks a library for generation with the given options. -/
def validate (library : Library) (options : Options) : Checked Error Unit := do
  let _ ← checkFamilies options [] library.families
  return ()

end EnumForge
