import EnumForge.Source.Grammar.Pattern

namespace EnumForge.Source.Grammar

section

variable (g : Readers)

/-- Takes an expression before a block, in which no record may stand. -/
def head : Reader Node := g (.expression false 0)

/-- Takes statements in braces after some words, with attributes of their own. -/
def blockAfter (label : Option String) (words : String) : Reader Node := do
  let (inner, body) ← bodyOf g .statement
  return .block label words inner body

/-- Takes what follows the first word of a conditional; the fuel bounds how many of them follow each
other. -/
def conditionalFrom : Nat → Reader Node
  | 0 => failure
  | fuel + 1 => do
    expectWord "if"
    let c ← head g
    let body ← statements g
    if !(← acceptWord "else") then return .conditional c body none
    if ← seesWord "if" then return .conditional c body (some (← conditionalFrom fuel))
    return .conditional c body (some (.block none "" [] (← statements g)))

def conditional : Reader Node := do conditionalFrom g ((← get).length + 1)

def bareArm : Reader Node := do
  let p ← g .alternatives
  let guard ← if ← acceptWord "if" then pure (some (← expression g)) else pure none
  expect "=>"
  let body ← g .leading
  let comma ← accept ","
  require (comma || body.standsAlone || (← atEnd))
  return .arm p guard body

def selection : Reader Node := do
  expectWord "match"
  let e ← head g
  let (inner, ts) ← (innerAttributes g).run (← group .brace)
  return .selection e inner (← many? (attributedBy g (bareArm g)) ts)

def loop (label : Option String) : Reader Node := do
  expectWord "loop"
  let (inner, body) ← bodyOf g .statement
  return .loop label inner body

def whileLoop (label : Option String) : Reader Node := do
  expectWord "while"
  let c ← head g
  let (inner, body) ← bodyOf g .statement
  return .whileLoop label c inner body

def forLoop (label : Option String) : Reader Node := do
  expectWord "for"
  let p ← g .alternatives
  expectWord "in"
  let e ← head g
  let (inner, body) ← bodyOf g .statement
  return .forLoop label p e inner body

def labelled : Reader Node := do
  let label := some (← lifetime)
  expect ":"
  match ← nextWord? with
  | some "loop" => loop g label
  | some "while" => whileLoop g label
  | some "for" => forLoop g label
  | _ => blockAfter g label ""

def closureInput : Reader Node := attributedBy g (typedPattern g)

/-- Reads the inputs of a closure up to the closing bar. -/
def closureInputsFrom : Nat → Reader (List Node)
  | 0 => failure
  | fuel + 1 => do
    if ← accept "|" then return []
    let p ← closureInput g
    if ← accept "|" then return [p]
    expect ","
    return p :: (← closureInputsFrom fuel)

def closureWords : Reader String := do
  let words ← ["const", "static", "async", "move"].mapM wordBefore
  return String.join words

def bareClosure (records : Bool) : Reader Node := do
  let words ← closureWords
  expect "|"
  let inputs ← closureInputsFrom g ((← get).length + 1)
  match ← outputOf g true with
  | some t => return .closure words inputs (some t) (.block none "" [] (← statements g))
  | none => return .closure words inputs none (← g (.expression records 0))

def closure (records : Bool) : Reader Node := quantified g (bareClosure g records)

def beginsClosure (ts : List Tree) : Bool :=
  beginsWord "move" ts || beginsWord "static" ts ||
    (beginsWord "for" ts && beginsParameters (ts.drop 1)) ||
    (beginsWord "const" ts && !beginsGroup .brace (ts.drop 1)) ||
    (beginsWord "async" ts && (beginsWith ['|'] (ts.drop 1) || beginsWord "move" (ts.drop 1)))

def beginsAsyncBlock (ts : List Tree) : Bool :=
  beginsWord "async" ts && (beginsGroup .brace (ts.drop 1) ||
    (beginsWord "move" (ts.drop 1) && beginsGroup .brace (ts.drop 2)))

def asyncBlock : Reader Node := do
  let first ← wordBefore "async"
  let second ← wordBefore "move"
  return .block none (first ++ second) [] (← statements g)

end

end EnumForge.Source.Grammar
