import EnumForge.Source.Grammar.Attribute

namespace EnumForge.Source.Grammar

section

variable (g : Readers)

def ty : Reader Node := g (.type true)

/-- Takes the arrow and the type after it, if they stand next. -/
def outputOf (sums : Bool) : Reader (Option Node) := do
  if ← accept "->" then return some (← g (.type sums)) else return none

def plainBlock : Reader Node := do
  let (inner, body) ← bodyOf g .statement
  return .block none "" inner body

/-- Takes a value where a type might stand: one that is written out, or a block. -/
def writtenValue : Reader Node := do
  if beginsGroup .brace (← get) then plainBlock g else literalValue

def seesValue : Reader Bool := do
  let ts ← get
  return beginsLiteral ts || beginsGroup .brace ts

/-- Where the bounds of an argument end. -/
def endsArgument (ts : List Tree) : Bool := beginsWith [','] ts || beginsWith ['>'] ts

def loneSegment? : Node → Option (String × List Node)
  | .path none _ false [.segment n _ arguments] => some (n, arguments)
  | _ => none

def argument : Reader Node := do
  let ts ← get
  if beginsLifetime ts && !beginsWith ['+'] (ts.drop 2) then return .lifetime (← lifetime)
  if ← seesValue then return ← writtenValue g
  let t ← ty g
  match loneSegment? t with
  | none => return t
  | some (n, arguments) =>
    if ← accept "=" then
      if ← seesValue then return .bindingArgument n arguments (← writtenValue g)
      return .bindingArgument n arguments (← ty g)
    if ← accept ":" then
      return .constraintArgument n arguments
        (← summedUntil "+" endsArgument (g (.bound false true)))
    return t

def beginsArguments (position : Position) (ts : List Tree) : Bool :=
  if beginsWith [':', ':'] ts then beginsWith ['<'] (ts.drop 2)
  else position = .type && beginsWith ['<'] ts && !beginsWith ['<', '='] ts

/-- Takes arguments in angle brackets. -/
def angleArguments : Reader (List Node) := do
  let _ ← accept "::"
  expect "<"
  itemsUntil ">" (argument g)

def segment (position : Position) : Reader Node := do
  if beginsWordOf ["super", "self", "crate", "try"] (← get) then
    return .segment (← wordSuch fun _ => true) position []
  let w ← wordSuch fun w => !keywords.contains w || w = "Self"
  if beginsArguments position (← get) then return .segment w position (← angleArguments g)
  return .segment w position []

def goesOn (ts : List Tree) : Bool :=
  beginsWith [':', ':'] ts && !beginsGroup .paren (ts.drop 2)

/-- Takes names with colons before each. -/
def moreSegmentsFrom (position : Position) : Nat → Reader (List Node)
  | 0 => failure
  | fuel + 1 => do
    if !goesOn (← get) then return []
    expect "::"
    let s ← segment g position
    return s :: (← moreSegmentsFrom position fuel)

def moreSegments (position : Position) : Reader (List Node) := do
  moreSegmentsFrom g position ((← get).length + 1)

def plainPath (position : Position) : Reader Node := do
  let fromRoot ← accept "::"
  let first ← segment g position
  return .path none 0 fromRoot (first :: (← moreSegments g position))

def path (position : Position) : Reader Node := do
  if !(← accept "<") then return ← plainPath g position
  let self ← ty g
  let seen ← if ← acceptWord "as" then plainPath g .type else pure (.path none 0 false [])
  expect ">"
  expect "::"
  let rest ← joined "::" (segment g position)
  match seen with
  | .path _ _ fromRoot first => return .path (some self) first.length fromRoot (first ++ rest)
  | _ => failure

def nameOf? : Node → Option Name
  | .path none _ fromRoot segments => do
    let words ← segments.mapM fun
      | .segment n _ [] => some n
      | _ => none
    return ⟨fromRoot, words⟩
  | _ => none

def seesBang : Reader Bool := return (← sees "!") && !(← sees "!=")

/-- Takes the rest of a call by name, if a path that has been read begins one. -/
def acceptInvocation (p : Node) : Reader (Option Invocation) := do
  match nameOf? p with
  | some n => if ← seesBang then return some (← invocationOf n) else return none
  | none => return none

/-- Gives inputs and an output to the last name of a path. -/
def withInputs (inputs : List Node) (output : Option Node) : Node → Option Node
  | .path self position fromRoot segments =>
    match segments.getLast? with
    | some (.segment n _ []) =>
      some (.path self position fromRoot
        (segments.dropLast ++ [.functionSegment n inputs output]))
    | _ => none
  | _ => none

def beginsInputs (ts : List Tree) : Bool :=
  beginsGroup .paren ts || (beginsWith [':', ':'] ts && beginsGroup .paren (ts.drop 2))

/-- Takes inputs in parentheses and the output after them. -/
def inputsAndOutput : Reader (List Node × Option Node) := do
  let _ ← accept "::"
  let inputs ← itemsIn .paren (ty g)
  return (inputs, ← outputOf g false)

/-- Takes a path as a bound: its last name may have inputs and an output. -/
def boundPath : Reader Node := do
  let p ← plainPath g .type
  if !beginsInputs (← get) || (withInputs [] none p).isNone then return p
  let (inputs, output) ← inputsAndOutput g
  withInputs inputs output p

/-- Whether a path goes on after an output. -/
def mayGoOn : Option Node → Bool
  | none => true
  | some (.grouped _) => true
  | some _ => false

/-- Takes inputs and outputs after the last name of a path, and more names after these. -/
def typePathFrom : Nat → Node → Reader Node
  | 0, _ => failure
  | fuel + 1, p => do
    if !beginsInputs (← get) || (withInputs [] none p).isNone then return p
    let (inputs, output) ← inputsAndOutput g
    match ← (withInputs inputs output p : Reader Node) with
    | .path self position fromRoot segments =>
      let more ← if mayGoOn output then moreSegments g .type else pure []
      typePathFrom fuel (.path self position fromRoot (segments ++ more))
    | p => return p

def typePath : Reader Node := do
  let p ← path g .type
  typePathFrom g ((← get).length + 1) p

end

end EnumForge.Source.Grammar
