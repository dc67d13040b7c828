import EnumForge.World.Shell.Arithmetic
import EnumForge.World.Shell.Pattern
import EnumForge.World.Shell.Session

namespace EnumForge.Shell

open EnumForge.Text

/-- What is made of the value of a parameter; `onEmpty` treats an empty value as none. -/
inductive Use
  | value
  | size
  | orElse (onEmpty : Bool) (text : List Char)
  | orAssign (onEmpty : Bool) (text : List Char)
  | orFail (onEmpty : Bool) (text : List Char)
  | ifSet (onEmpty : Bool) (text : List Char)
  | withoutStart (longest : Bool) (text : List Char)
  | withoutEnd (longest : Bool) (text : List Char)
deriving DecidableEq, Repr

/-- A part of what a word becomes; `next` stands between arguments. -/
inductive Piece
  | text (marks : List Mark) (splits : Bool)
  | next
deriving DecidableEq, Repr

def nameAndRest : List Char → List Char × List Char
  | [] => ([], [])
  | c :: cs =>
    if c ∈ ['*', '@', '#', '?', '$', '!', '-'] then ([c], cs)
    else
      let name := (c :: cs).takeWhile (if c.isDigit then Char.isDigit else isNameChar)
      (name, (c :: cs).drop name.length)

/-- The name and the use that a text in braces stands for. -/
def use? (text : List Char) : Option (List Char × Use) :=
  match text with
  | ['#'] => some (['#'], .value)
  | '#' :: r => if (nameAndRest r).2.isEmpty then some ((nameAndRest r).1, .size) else none
  | _ =>
    let (name, rest) := nameAndRest text
    let onEmpty := rest.head? = some ':'
    if name.isEmpty then none
    else
      match if onEmpty then rest.drop 1 else rest with
      | '-' :: r => some (name, .orElse onEmpty r)
      | '=' :: r => some (name, .orAssign onEmpty r)
      | '?' :: r => some (name, .orFail onEmpty r)
      | '+' :: r => some (name, .ifSet onEmpty r)
      | r =>
        if onEmpty then none
        else
          match r with
          | [] => some (name, .value)
          | '#' :: '#' :: r => some (name, .withoutStart true r)
          | '#' :: r => some (name, .withoutStart false r)
          | '%' :: '%' :: r => some (name, .withoutEnd true r)
          | '%' :: r => some (name, .withoutEnd false r)
          | _ => none

namespace Session

/-- Characters at which fields are split. -/
def separators (s : Session) : List Char := ((s.bindings.lookup "IFS").getD " \t\n").toList

def value? (s : Session) (name : List Char) : Option (List Char) :=
  match name with
  | ['*'] => some ((String.ofList (s.separators.take 1)).intercalate s.args).toList
  | ['@'] => some (" ".intercalate s.args).toList
  | ['#'] => some (toString s.args.length).toList
  | ['?'] => some (toString s.status).toList
  | ['$'] => some processId.toList
  | ['-'] => some (if s.endsOnFailure then ['e'] else [])
  | ['!'] => some []
  | ['0'] => some s.name.toList
  | _ =>
    if name.all Char.isDigit then (s.args[readNat name - 1]?).map String.toList
    else (s.bindings.lookup (String.ofList name)).map String.toList

end Session

/-- A text that was quoted or not, as a part of a word. -/
def shown (isQuoted : Bool) (cs : List Char) : Piece := .text (cs.map (⟨·, isQuoted⟩)) !isQuoted

/-- Lets what was not quoted be split. -/
def Piece.splitting : Piece → Piece
  | .text marks splits => .text marks (splits || marks.any (!·.isQuoted))
  | .next => .next

def row (pieces : List Piece) : List Mark :=
  pieces.flatMap fun p => match p with
    | .text marks _ => marks
    | .next => [⟨' ', true⟩]

def plainText (marks : List Mark) : List Char := marks.map (·.char)

/-- What a word becomes; `output` gives what a script prints. The fuel bounds words in words. -/
def pieces (output : List Char → Act (List Char)) : Nat → Word → Act (List Piece)
  | 0, _ => pure []
  | fuel + 1, w => w.flatMapM fun fragment => do
    match fragment with
    | .plain c => return [.text [⟨c, false⟩] false]
    | .quoted cs => return [.text (cs.map (⟨·, true⟩)) false]
    | .output script isQuoted => return [shown isQuoted (← output script)]
    | .number expression isQuoted =>
      let text := plainText (row (← pieces output fuel (wordOf true expression)))
      let s ← get
      match Arithmetic.evaluate (fun name => (s.value? name).getD []) text with
      | .ok n => return [shown isQuoted (toString n).toList]
      | .error fault =>
        Act.abort s!"arithmetic expression: {fault.text}: \"{String.ofList text}\""
    | .parameter text isQuoted =>
      let s ← get
      let operand := fun (text : List Char) => do
        let operand ← pieces output fuel (wordOf isQuoted text)
        return if isQuoted then operand else operand.map Piece.splitting
      match use? text with
      | none => Act.abort "Bad substitution"
      | some (name, use) =>
        let value := s.value? name
        let present := fun (onEmpty : Bool) => value.any fun v => !(onEmpty && v.isEmpty)
        match use with
        | .value =>
          if name = ['@'] ∨ name = ['*'] ∧ isQuoted = false then
            return (s.args.map fun a => shown isQuoted a.toList).intersperse .next
          else if value.isNone && s.refusesUnset then
            Act.abort s!"{String.ofList name}: parameter not set"
          else return [shown isQuoted (value.getD [])]
        | .size => return [shown isQuoted (toString (value.getD []).length).toList]
        | .orElse onEmpty text =>
          if present onEmpty then return [shown isQuoted (value.getD [])] else operand text
        | .orAssign onEmpty text =>
          if present onEmpty then return [shown isQuoted (value.getD [])]
          else
            let value := plainText (row (← operand text))
            modify fun s => s.bind (String.ofList name) (String.ofList value)
            return [shown isQuoted value]
        | .orFail onEmpty text =>
          if present onEmpty then return [shown isQuoted (value.getD [])]
          else
            let message := plainText (row (← operand text))
            let usual := if onEmpty then "parameter not set or null" else "parameter not set"
            let message := if text.isEmpty then usual else String.ofList message
            Act.abort s!"{String.ofList name}: {message}"
        | .ifSet onEmpty text => if present onEmpty then operand text else return [shown isQuoted []]
        | .withoutStart longest text =>
          let pattern := matchersFrom 0 (row (← pieces output fuel (wordOf false text)))
          return [shown isQuoted (cutStart longest pattern (value.getD []))]
        | .withoutEnd longest text =>
          let pattern := matchersFrom 0 (row (← pieces output fuel (wordOf false text)))
          return [shown isQuoted (cutEnd longest pattern (value.getD []))]

/-- Adds text to the last field, which is split at separators; none stands for a field that has not
begun. -/
def extendField (separators : List Char) (fields : List (List Mark))
    (current : Option (List Mark)) : List Mark → List (List Mark) × Option (List Mark)
  | [] => (fields, current)
  | m :: ms =>
    if m.isQuoted || m.char ∉ separators then
      extendField separators fields (some (current.getD [] ++ [m])) ms
    else if m.char ∈ [' ', '\t', '\n'] then
      extendField separators (fields ++ current.toList) none ms
    else extendField separators (fields ++ [current.getD []]) none ms

def fieldsFrom (separators : List Char) (fields : List (List Mark))
    (current : Option (List Mark)) : List Piece → List (List Mark)
  | [] => fields ++ current.toList
  | .next :: ps => fieldsFrom separators (fields ++ current.toList) none ps
  | .text marks false :: ps => fieldsFrom separators fields (some (current.getD [] ++ marks)) ps
  | .text marks true :: ps =>
    let (fields, current) := extendField separators fields current marks
    fieldsFrom separators fields current ps

def namesIn (tree : Tree) (place : Place) : List String :=
  (tree.entries.filterMap fun (p, _) =>
    if p ≠ [] ∧ p.dropLast = place then p.getLast? else none).mergeSort fun a b => a ≤ b

/-- Paths that fit a pattern, name by name; the first argument is what of a path has been chosen. A
name that begins with a dot is chosen only by a pattern that does. -/
def pathsFrom (w : World) (chosen : String) : List (List Mark) → List String
  | [] => if (w.tree.locate w.cwd chosen).toOption.any fun p => (w.tree.get? p).isSome then [chosen]
    else []
  | name :: names =>
    let path := fun (n : String) => if names.isEmpty then chosen ++ n else chosen ++ n ++ "/"
    if name.all fun m => m.isQuoted || m.char ∉ ['*', '?', '['] then
      pathsFrom w (path (String.ofList (plainText name))) names
    else
      match w.tree.locate w.cwd (if chosen.isEmpty then "." else chosen) with
      | .error _ => []
      | .ok place =>
        let fitting := (namesIn w.tree place).filter fun n =>
          (!n.startsWith "." || name.head?.any fun m => m.char = '.') &&
            fits (matchersFrom 0 name) n.toList
        fitting.flatMap fun n => pathsFrom w (path n) names

/-- The texts that a field becomes: the paths that it fits as a pattern, or itself. -/
def paths (w : World) (field : List Mark) : List String :=
  if field.all fun m => m.isQuoted || m.char ∉ ['*', '?', '['] then
    [String.ofList (plainText field)]
  else
    match pathsFrom w "" (field.splitOnP fun m => m.char = '/') with
    | [] => [String.ofList (plainText field)]
    | found => found

/-- How deep words may stand in words. -/
def depth : Nat := 64

def fields (output : List Char → Act (List Char)) (w : Word) : Act (List String) := do
  -- The quotes around all arguments are no empty field where there are none.
  let isOnlyArguments := w = [.quoted [], .parameter ['@'] true]
  let pieces ← pieces output depth (if isOnlyArguments then w.drop 1 else w)
  let s ← get
  return (fieldsFrom s.separators [] none pieces).flatMap (paths s.world)

def text (output : List Char → Act (List Char)) (w : Word) : Act String := do
  return String.ofList (plainText (row (← pieces output depth w)))

def pattern (output : List Char → Act (List Char)) (w : Word) : Act (List Matcher) := do
  return matchersFrom 0 (row (← pieces output depth w))

/-- Name and value, if a word gives a parameter its value. -/
def assignment? (w : Word) : Option (String × Word) :=
  let name := w.takeWhile fun f => match f with
    | .plain c => isNameChar c
    | _ => false
  match w.drop name.length with
  | .plain '=' :: value => do
    let name ← Word.plainText? name
    if isName name then some (String.ofList name, value) else none
  | _ => none

end EnumForge.Shell
