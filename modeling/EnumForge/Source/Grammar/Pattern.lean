import EnumForge.Source.Grammar.Ty

namespace EnumForge.Source.Grammar

/-- Operators of ranges that have an upper end. -/
def closedMarks : List String := ["..=", "..."]

/-- Takes the operator of a range: whether the range has an upper end. -/
def rangeMark : Reader Bool := do
  for op in closedMarks do
    if ← accept op then return true
  expect ".."
  return false

def rangeText (closed : Bool) : String := if closed then "..=" else ".."

/-- Whether the path that trees begin with is more than a name to be bound. -/
def continuesPath (ts : List Tree) : Bool :=
  beginsWith [':', ':'] ts || beginsWith ['!'] ts || beginsGroup .brace ts ||
    beginsGroup .paren ts || beginsWith ['.', '.'] ts

/-- Whether trees begin with a pattern that is a path or starts with one. -/
def beginsPathPattern (ts : List Tree) : Bool :=
  (beginsIdentifier ts && continuesPath (ts.drop 1)) ||
    (beginsWord "self" ts && beginsWith [':', ':'] (ts.drop 1)) ||
    beginsWith [':', ':'] ts || beginsWith ['<'] ts || beginsWordOf ["Self", "super", "crate"] ts

/-- Whether a range has no upper end before what stands next. -/
def endsRange (ts : List Tree) : Bool :=
  ts.isEmpty || beginsWith ['|'] ts || beginsWith ['='] ts ||
    (beginsWith [':'] ts && !beginsWith [':', ':'] ts) || beginsWith [','] ts ||
    beginsWith [';'] ts || beginsWord "if" ts

/-- Whether alternatives go on. -/
def seesBar : Reader Bool := return (← sees "|") && !(← sees "||") && !(← sees "|=")

section

variable (g : Readers)

/-- Takes patterns with bars between them, after what may stand before the first. -/
def moreAlternativesFrom : Nat → Reader (List Node)
  | 0 => failure
  | fuel + 1 => do
    if !(← seesBar) then return []
    expect "|"
    let p ← g .pattern
    return p :: (← moreAlternativesFrom fuel)

/-- Takes alternatives; a bar may stand before the first. -/
def alternativesStep : Reader Node := do
  let leading ← accept "|"
  let first ← g .pattern
  let rest ← moreAlternativesFrom g ((← get).length + 1)
  if leading || !rest.isEmpty then return .alternatives (first :: rest) else return first

def constantBlock : Reader Node := do
  expectWord "const"
  let (inner, body) ← bodyOf g .statement
  return .block none "const " inner body

def rangeEnd : Reader Node := do
  let ts ← get
  if beginsLiteral ts then return ← literalValue
  if beginsWord "const" ts then return ← constantBlock g
  require (beginsPath ts || beginsWith ['<'] ts)
  path g .value

def upperEnd (closed : Bool) : Reader (Option Node) := do
  if endsRange (← get) then
    require !closed
    return none
  return some (← rangeEnd g)

/-- Takes what follows a constant: the rest of a range, if there is one. -/
def rangeFrom (low : Node) : Reader Node := do
  if !(← sees "..") then return low
  let closed ← rangeMark
  return .range (some low) (rangeText closed) (← upperEnd g closed)

/-- Takes a range without a lower end, or what stands for the other items. -/
def openRange : Reader Node := do
  require !(← sees "...")
  let closed ← rangeMark
  match ← upperEnd g closed with
  | none => return .rest
  | high => return .range none (rangeText closed) high

def bareFieldPattern : Reader Node := do
  let boxed ← acceptWord "box"
  let byReference ← acceptWord "ref"
  let mutable ← acceptWord "mut"
  let plain := !boxed && !byReference && !mutable
  match ← get with
  | .literal t :: ts =>
    let member ← (decimalIndex? t : Reader String)
    require plain
    set ts
    expect ":"
    return .fieldPattern (some member) (← g .alternatives)
  | _ =>
    let n ← identifier
    if plain && (← sees ":") then
      expect ":"
      return .fieldPattern (some n) (← g .alternatives)
    return .fieldPattern none (if boxed then .unwritable else .capture byReference mutable n none)

/-- Reads the fields of a record pattern, and what stands for the others. -/
def fieldPatternsFrom : Nat → Reader (List Node × Option Node)
  | 0 => failure
  | fuel + 1 => do
    if ← atEnd then return ([], none)
    let as ← outerAttributes g
    if ← accept ".." then return ([], some (withAttributes as .rest))
    let f := withAttributes as (← bareFieldPattern g)
    if ← atEnd then return ([f], none)
    expect ","
    let (fs, rest) ← fieldPatternsFrom fuel
    return (f :: fs, rest)

def pathPattern : Reader Node := do
  let p ← path g .value
  if let some call ← acceptInvocation p then return .invocation call
  match ← get with
  | .group .paren ts :: rest =>
    let (ps, _) ← items? (g .alternatives) ts
    set rest
    return .tupleStruct p ps
  | .group .brace ts :: rest =>
    let (fields, others) ← (fieldPatternsFrom g (ts.length + 1)).whole? ts
    set rest
    return .recordPattern p fields others
  | _ => rangeFrom g p

/-- Takes a name to be bound, and the pattern that it stands for. -/
def capture : Reader Node := do
  let byReference ← acceptWord "ref"
  let mutable ← acceptWord "mut"
  let n ← wordSuch fun w => !keywords.contains w || w = "self"
  return .capture byReference mutable n
    (← if ← accept "@" then pure (some (← g .pattern)) else pure none)

/-- Whether a pattern is a range that lacks an end. -/
def isOpenRange : Node → Bool
  | .range none _ _ => true
  | .range _ _ none => true
  | _ => false

def parenthesizedPattern (ts : List Tree) : Reader Node := do
  match ← items? (g .alternatives) ts with
  | ([.rest], false) => return .tuplePattern [.rest] false
  | ([p], false) => return .grouped p
  | (ps, trailing) => return .tuplePattern ps trailing

def wordPattern (w : String) : Reader Node := do
  match w with
  | "_" => expectWord w; return .inferred
  | "box" =>
    expectWord w
    let _ ← g .pattern
    return .unwritable
  | "const" => rangeFrom g (← constantBlock g)
  | _ => capture g

def patternStep : Reader Node := do
  let ts ← get
  if beginsPathPattern ts then return ← pathPattern g
  if beginsLiteral ts then return ← rangeFrom g (← literalValue)
  match ts with
  | .group .paren inside :: rest => set rest; parenthesizedPattern g inside
  | .group .bracket inside :: rest =>
    let (ps, _) ← items? (g .alternatives) inside
    require !(ps.any isOpenRange)
    set rest
    return .slicePattern ps
  | .mark '&' _ :: rest =>
    set rest
    let mutable ← acceptWord "mut"
    return .reference none mutable (← g .pattern)
  | .word w :: _ => wordPattern g w
  | _ => openRange g

def typedPattern : Reader Node := do
  let p ← g .pattern
  if ← accept ":" then return .typed p (← ty g) else return p

end

end EnumForge.Source.Grammar
