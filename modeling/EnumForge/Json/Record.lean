import EnumForge.Json.Skip

namespace EnumForge.Json

abbrev ValueReader (α : Type) := List Char → Except Fault (α × List Char)

/-- Reads a field of an object after its key; a field comes only once. -/
def readField {α : Type} (name : String) (present : Option α) (value : ValueReader α)
    (s : List Char) : Except Fault (Option α × List Char) :=
  if present.isSome then .error (.loose (.duplicateField name) s)
  else do
    let (a, rest) ← value (← readColon s)
    .ok (some a, rest)

/-- Passes over a member that names no field. -/
def skipMember (s : List Char) : Except Fault (List Char) := do skipValue (← readColon s)

def required {α : Type} (name : String) : Option α → Except Cause α
  | some a => .ok a
  | none => .error (.missingField name)

/-- Reads the value of the field after `count` others of a list; `expected` describes the whole. -/
def readElement {α : Type} (expected : String) (count : Nat) (value : ValueReader α)
    (s : List Char) : Except Fault (α × List Char) := do
  match ← nextElement (count == 0) s with
  | none => .error (.loose (.invalidLength count expected) s)
  | some r => value r

/-- Reads a record value: an object, or a list. -/
def readRecordValue {α β : Type} (name : String) (member : MemberReader α) (init : α)
    (finish : α → Except Cause β) (elements : ValueReader β) (s : List Char) :
    Except Fault (β × List Char) :=
  match skipBlank s with
  | [] => .error (.next .endInValue [])
  | '\x7b' :: r => readObject member init finish r
  | '[' :: r =>
    match elements r with
    | .ok (b, r) => (closeList r).map (b, ·)
    | .error fault => .error (fault.settle leaveList)
  | r => .error (misplaced ("struct " ++ name) r)

/-- A string as it is written in a document. -/
def stringText (s : String) : String := String.ofList (encode s.toList)

/-- A string that comes in pieces, each escaped for itself. -/
def piecesText (pieces : List String) : String :=
  String.ofList ('"' :: (pieces.flatMap fun p => p.toList.flatMap encodeChar) ++ ['"'])

/-- An object of fields whose values are written already. -/
def recordText (fields : List (String × String)) : String :=
  "\x7b" ++ ",".intercalate (fields.map fun f => s!"{stringText f.1}:{f.2}") ++ "\x7d"

end EnumForge.Json
