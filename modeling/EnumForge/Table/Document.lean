import EnumForge.Error
import EnumForge.Json.Reader
import EnumForge.Table.Keys
import EnumForge.Table.Library

namespace EnumForge

open Json

/-- A document as it was read: families with their labels and numbers, in the order of the text. -/
abbrev Document := List (String × List (String × Numeral))

namespace Document

def readLabel : MemberReader (List (String × Numeral)) := fun acc key s => do
  let (n, rest) ← readNumberValue (← readColon s)
  .ok (acc ++ [(String.ofList key, n)], rest)

def readFamily : MemberReader Document := fun acc key s => do
  let (members, rest) ← readMapValue readLabel [] (← readColon s)
  .ok (acc ++ [(String.ofList key, members)], rest)

def read (text : String) : Except Json.Error Document :=
  readDocument (readMapValue readFamily []) text

end Document

/-- Whether a real number is a whole number that 64 bits cannot hold: too large, or negative. -/
def isWholeOutside (minus : Bool) (x : Decimal.Binary64) : Bool :=
  x.isWhole && (x.atLeast (Nat.pow 2 64) || (minus && x.mantissa ≠ 0))

/-- The value of a member, which must be a natural number below 2^64. -/
def memberValue (family label : String) (n : Json.Number) : Except Error UInt64 :=
  match n with
  | .natural n => .ok (UInt64.ofNat n)
  | .negative _ => .error (.outOfRange family label n.text .u64)
  | .real minus x =>
    if isWholeOutside minus x then .error (.outOfRange family label n.text .u64)
    else .error (.notAnInteger family label n.text)

/-- The family of a document's entry. -/
def Document.family (name : String) (members : List (String × Numeral)) : Except Error Family := do
  let members ← (resolveKeys members).mapM fun e => do
    return (⟨e.1, ← memberValue name e.1 e.2.number⟩ : Member)
  return Family.ofMembers name members

def Document.library (d : Document) : Except Error Library := do
  let families ← (resolveKeys d).mapM fun e => Document.family e.1 e.2
  return Library.ofFamilies families

/-- Name that stands for a text that comes from no file. -/
def inlinePath : String := "<inline>"

/-- Reads a library from a text; `path` is where the text comes from. -/
def Library.ofText (path text : String) : Except Error Library := do
  let d ← (Document.read text).mapError (.inputParse path)
  d.library

end EnumForge
