import EnumForge.World.State
import EnumForge.Unicode.Alphanumeric
import EnumForge.Unicode.WhiteSpace

namespace EnumForge.EnvironmentFile

open EnumForge.Text EnumForge.Unicode

/-- Variables set by earlier lines of the file; none stands for a variable without a value. -/
abbrev Known := List (String × Option String)

/-- How a reference to a variable is being read: not at all, as `$NAME`, or as `${NAME}`. -/
inductive Reference
  | none
  | plain
  | braced
deriving DecidableEq

structure Reading where
  strong : Bool
  weak : Bool
  escaped : Bool
  ended : Bool
  reference : Reference
  name : List Char
  output : List Char

/-- Value of a name: from the environment, or from an earlier line, or nothing. -/
def valueOf (w : World) (known : Known) (name : List Char) : List Char :=
  let name := String.ofList name
  match w.variableValue? name with
  | some value => value.toList
  | none => ((known.lookup name).join.getD "").toList

/-- Puts the value of the name read so far into the output. -/
def Reading.resolve (r : Reading) (w : World) (known : Known) : Reading :=
  { r with output := r.output ++ valueOf w known r.name, name := [] }

def Reading.push (r : Reading) (c : Char) : Reading := { r with output := r.output ++ [c] }

/-- Takes one character of a reference to a variable. -/
def Reading.takeInReference (r : Reading) (w : World) (known : Known) (c : Char) : Reading :=
  if isAlphanumeric c then { r with name := r.name ++ [c] }
  else if r.reference = .braced then
    if c = '\x7d' then { r.resolve w known with reference := .none }
    else { r with name := r.name ++ [c] }
  else if c = '\x7b' ∧ r.name = [] then { r with reference := .braced }
  else if c = '$' then { r.resolve w known with reference := .plain }
  else { (r.resolve w known).push c with reference := .none }

/-- Takes one character of a value; none when it cannot stand there. -/
def Reading.take (r : Reading) (w : World) (known : Known) (c : Char) : Option Reading :=
  if r.escaped then
    if c ∈ ['\\', '\'', '"', '$', ' '] then some { r.push c with escaped := false }
    else if c = 'n' then some { r.push '\n' with escaped := false }
    else none
  else if r.strong then some (if c = '\'' then { r with strong := false } else r.push c)
  else if r.reference ≠ .none then some (r.takeInReference w known c)
  else if c = '$' then some { r with reference := .plain }
  else if r.weak then
    if c = '"' then some { r with weak := false }
    else if c = '\\' then some { r with escaped := true }
    else some (r.push c)
  else if c = '\'' then some { r with strong := true }
  else if c = '"' then some { r with weak := true }
  else if c = '\\' then some { r with escaped := true }
  else if c = ' ' ∨ c = '\t' then some { r with ended := true }
  else some (r.push c)

/-- Reads characters of a value; after a blank only a comment may follow. -/
def readValueFrom (w : World) (known : Known) (r : Reading) : List Char → Option Reading
  | [] => some r
  | c :: cs =>
    if r.ended then
      if c = ' ' ∨ c = '\t' then readValueFrom w known r cs
      else if c = '#' then some r
      else none
    else do readValueFrom w known (← r.take w known c) cs

/-- Reads a value; open quotes and braces are refused. -/
def readValue? (w : World) (known : Known) (s : List Char) : Option String := do
  let r ← readValueFrom w known ⟨false, false, false, false, .none, [], []⟩ s
  if r.reference = .braced ∨ r.strong ∨ r.weak then none
  else some (String.ofList (r.resolve w known).output)

def isKeyStart (c : Char) : Bool := c.isAlpha || c == '_'

def isKeyChar (c : Char) : Bool := c.isAlphanum || c == '_' || c == '.'

/-- Reads the name of a variable and the blanks after it. -/
def readKey? (s : List Char) : Option (List Char × List Char) :=
  if s.head?.any isKeyStart then
    some (s.takeWhile isKeyChar, (s.dropWhile isKeyChar).dropWhile isWhiteSpace)
  else none

/-- Reads a name and the equals sign after it; the word `export` may stand before the name. -/
def readName? (s : List Char) : Option (List Char × List Char) :=
  match readKey? s with
  | some (key, '=' :: r) => some (key, r)
  | some (key, r) =>
    if key = "export".toList then
      match readKey? r with
      | some (key, '=' :: r) => some (key, r)
      | _ => none
    else none
  | none => none

/-- What one line says: nothing, or a variable and its value, if it has one. -/
def readLine? (w : World) (known : Known) (line : List Char) :
    Option (Option (String × Option String)) :=
  match trim line with
  | [] => some none
  | '#' :: _ => some none
  | s =>
    (readName? s).bind fun (key, r) =>
      let key := String.ofList key
      match r.dropWhile isWhiteSpace with
      | [] => some (some (key, none))
      | '#' :: _ => some (some (key, none))
      | r => (readValue? w known r).map fun value => some (key, some value)

/-- Sets the variables of some lines, up to the first that cannot be understood. A value that the
environment cannot hold is an error, which names the variable. -/
def applyLines (known : Known) : List (List Char) → World → Except String World
  | [], w => .ok w
  | line :: lines, w =>
    match readLine? w known line with
    | none => .ok w
    | some none => applyLines known lines w
    | some (some (key, value)) =>
      let known' := (key, value) :: known
      if (w.variableValue? key).isSome then applyLines known' lines w
      else
        let value := value.getD ""
        if World.isSettable key value then applyLines known' lines (w.setVariable key value)
        else .error key

/-- Lines of a text; a line may end in a carriage return before its line feed. -/
def splitLines (line : List UInt8) : List UInt8 → List (List UInt8)
  | [] => if line.isEmpty then [] else [line.reverse]
  | b :: bs =>
    if b = 10 then
      (match line with
        | 13 :: l => l.reverse
        | l => l.reverse) :: splitLines [] bs
    else splitLines (b :: line) bs

/-- Texts of some lines, up to the first that is no text. -/
def textLines : List (List UInt8) → List (List Char)
  | [] => []
  | l :: ls =>
    match ofUtf8 l with
    | .ok s => s :: textLines ls
    | .error _ => []

/-- The file `.env` in the nearest directory that has one, from the current one upward. -/
def nearestFile? (w : World) : Option (List UInt8) :=
  (Path.ancestors w.cwdPath).findSome? fun dir =>
    (w.tree.readBytes w.cwd (Path.join dir ".env")).toOption

/-- Sets the variables that the nearest `.env` file gives and the environment does not. -/
def load (w : World) : Except String World :=
  match nearestFile? w with
  | none => .ok w
  | some bytes => applyLines [] (textLines (splitLines [] bytes)) w

end EnumForge.EnvironmentFile
