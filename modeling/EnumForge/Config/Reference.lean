import EnumForge.Error

namespace EnumForge

/-- A reference to a variable, and the text that stands in when it is not set. -/
structure Reference where
  name : List Char
  default : Option (List Char)
deriving DecidableEq, Repr

namespace Reference

def text (r : Reference) : List Char :=
  '$' :: '\x7b' :: r.name ++
    (match r.default with
      | none => []
      | some d => ':' :: '-' :: d) ++ ['\x7d']

def isNameChar (c : Char) : Bool := c ≠ '\x7d' && c ≠ ':'

/-- The reference whose text begins with a dollar sign that has been read. -/
def ofTail? : List Char → Option Reference
  | '\x7b' :: s =>
    let name := s.takeWhile isNameChar
    if name.isEmpty then none
    else
      match s.dropWhile isNameChar with
      | '\x7d' :: _ => some ⟨name, none⟩
      | ':' :: '-' :: r =>
        if r.contains '\x7d' then some ⟨name, some (r.takeWhile (· ≠ '\x7d'))⟩ else none
      | _ => none
  | _ => none

/-- References of a text from left to right; the first `skip` characters belong to one already. -/
def scan : Nat → List Char → List Reference
  | _, [] => []
  | skip + 1, _ :: s => scan skip s
  | 0, c :: s =>
    if c = '$' then
      match ofTail? s with
      | some r => r :: scan (r.text.length - 1) s
      | none => scan 0 s
    else scan 0 s

/-- Replaces each occurrence of a pattern; the first `skip` characters belong to one already. -/
def replaceFrom (pattern replacement : List Char) : Nat → List Char → List Char
  | _, [] => []
  | skip + 1, _ :: s => replaceFrom pattern replacement skip s
  | 0, c :: s =>
    if pattern.isPrefixOf (c :: s) then
      replacement ++ replaceFrom pattern replacement (pattern.length - 1) s
    else c :: replaceFrom pattern replacement 0 s

def value (env : String → Option String) (r : Reference) : Checked Error (List Char) :=
  match env (String.ofList r.name), r.default with
  | some v, _ => .ok v.toList
  | none, some d => do
    .warn (.defaultUsed (String.ofList r.name) (String.ofList d))
    return d
  | none, none => .error (.variableNotSet (String.ofList r.name))

/-- Replaces references in order, each wherever it is written, also in what took the place of one
before it. -/
def resolveAll (env : String → Option String) (s : List Char) :
    List Reference → Checked Error (List Char)
  | [] => .ok s
  | r :: rs => do
    let v ← r.value env
    resolveAll env (replaceFrom r.text v 0 s) rs

end Reference

def resolveReferences (env : String → Option String) (text : String) : Checked Error String := do
  let s ← Reference.resolveAll env text.toList (Reference.scan 0 text.toList)
  return String.ofList s

end EnumForge
