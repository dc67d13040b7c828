import EnumForge.Source.Grammar.Path

namespace EnumForge.Source.Grammar

section

variable (g : Readers)

def boundParameters : Reader (List Node) := do
  expectWord "for"
  expect "<"
  itemsUntil ">" (g .parameter)

/-- Takes what a reader reads, with parameters that are bound for it if there are some. -/
def quantified (p : Reader Node) : Reader Node := do
  if !(← seesWord "for") then return ← p
  let parameters ← boundParameters g
  return .quantified parameters (← p)

def captures : Reader Node := do
  expectWord "use"
  expect "<"
  let words ← itemsUntil ">" do
    if ← seesLifetime then lifetime
    else wordSuch fun w => !keywords.contains w || w = "Self"
  return .captures words

/-- Takes the word that says that a bound is constant, in brackets or not. -/
def acceptConstant : Reader Bool := do
  match ← get with
  | .group .bracket [.word "const"] :: ts => set ts; return true
  | .word "const" :: ts => set ts; return true
  | _ => return false

/-- Takes a bound that is a path: for all of some parameters, constant, or relaxed. -/
def pathBound (constants : Bool) : Reader Node := do
  let outer ← if ← seesWord "for" then pure (some (← boundParameters g)) else pure none
  let constant ← acceptConstant
  require (constants || !constant)
  let relaxed ← accept "?"
  let inner ← if relaxed && outer.isNone && (← seesWord "for") then
      pure (some (← boundParameters g))
    else pure none
  let p ← boundPath g
  if constant then return .unwritable
  let p := if relaxed then .relaxed p else p
  match outer <|> inner with
  | some parameters => return .quantified parameters p
  | none => return p

def bound (capturing constants : Bool) : Reader Node := do
  if ← seesLifetime then return .lifetime (← lifetime)
  if ← seesWord "use" then
    require capturing
    return ← captures
  match ← get with
  | .group .paren ts :: rest =>
    let b ← (pathBound g constants).whole? ts
    set rest
    match b with
    | .unwritable => return .unwritable
    | b => return .grouped b
  | _ => pathBound g constants

/-- Takes bounds after a colon, if one stands next; they may be missing. -/
def boundsAfterColon (ends : List Tree → Bool) : Reader (List Node) := do
  if ← accept ":" then summedUntil "+" ends (g (.bound false true)) else return []

/-- Takes lifetimes after a colon, if one stands next; they may be missing. -/
def lifetimesAfterColon (ends : List Tree → Bool) : Reader (List String) := do
  if ← accept ":" then summedUntil "+" ends lifetime else return []

def endsParameter (ts : List Tree) : Bool :=
  ts.isEmpty || beginsWith [','] ts || beginsWith ['>'] ts || beginsWith ['='] ts

def constantDefault : Reader Node := do
  let ts ← get
  if beginsLiteral ts then return ← literalValue
  if beginsIdentifier ts then
    return .path none 0 false [.segment (← identifier) .value []]
  plainBlock g

def bareParameter : Reader Node := do
  if ← seesLifetime then
    let l ← lifetime
    return .lifetimeParameter l (← lifetimesAfterColon endsParameter)
  if ← acceptWord "const" then
    let n ← identifier
    expect ":"
    let t ← ty g
    return .valueParameter n t
      (← if ← accept "=" then pure (some (← constantDefault g)) else pure none)
  let n ← identifier
  let bounds ← boundsAfterColon g endsParameter
  return .typeParameter n bounds (← if ← accept "=" then pure (some (← ty g)) else pure none)

def parameter : Reader Node := attributedBy g (bareParameter g)

/-- Takes the parameters of an item, if it has some; one may have no name. -/
def parameters : Reader (List Node) := do
  if !(← accept "<") then return []
  itemsUntil ">" <| attributedBy g do
    if ← acceptWord "_" then return .typeParameter "_" [] none
    bareParameter g

/-- Whether parameters stand next, and no path that starts from a type. -/
def beginsParameters (ts : List Tree) : Bool :=
  let first := ts.drop 1
  let named := beginsLifetime first || beginsIdentifier first
  let second := first.drop (if beginsLifetime first then 2 else 1)
  beginsWith ['<'] ts &&
    (beginsWith ['>'] first || beginsWith ['#'] first || beginsWord "const" first ||
      (named && (beginsWith ['>'] second || beginsWith [','] second || beginsWith ['='] second ||
        (beginsWith [':'] second && !beginsWith [':', ':'] second))))

def endsConditions (ts : List Tree) : Bool :=
  ts.isEmpty || beginsGroup .brace ts || beginsWith [','] ts || beginsWith [';'] ts ||
    beginsWith ['='] ts || (beginsWith [':'] ts && !beginsWith [':', ':'] ts)

def condition : Reader Node := do
  let ts ← get
  if beginsLifetime ts && beginsWith [':'] (ts.drop 2) then
    let l ← lifetime
    return .lifetimeCondition l
      (← lifetimesAfterColon fun ts => endsConditions ts || beginsWith [':'] ts)
  quantified g do
    let t ← ty g
    require (← sees ":")
    return .typeCondition t (← boundsAfterColon g endsConditions)

def conditionsFrom : Nat → Reader (List Node)
  | 0 => failure
  | fuel + 1 => do
    if endsConditions (← get) then return []
    let c ← condition g
    if ← accept "," then return c :: (← conditionsFrom fuel) else return [c]

/-- Takes the conditions on the parameters of an item, and says whether the item has any. -/
def acceptConditions : Reader (Option (List Node)) := do
  if !(← acceptWord "where") then return none
  require !(beginsParameters (← get))
  return some (← conditionsFrom g ((← get).length + 1))

def conditions : Reader (List Node) := return (← acceptConditions g).getD []

end

end EnumForge.Source.Grammar
