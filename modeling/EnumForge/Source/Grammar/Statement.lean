import EnumForge.Source.Grammar.Member

namespace EnumForge.Source.Grammar

/-- Whether what follows a constant mark goes on as a closure or a block. -/
def goesOnAfterConst (next : List Tree) : Bool :=
  beginsGroup .brace next || beginsWord "static" next || beginsWord "move" next ||
    beginsWith ['|'] next ||
    (beginsWord "async" next && !beginsWordOf ["unsafe", "extern", "fn"] (next.drop 1))

/-- Words that begin an item wherever they stand. -/
def itemWords : List String :=
  ["pub", "extern", "use", "fn", "mod", "type", "struct", "enum", "trait", "impl", "macro"]

def beginsItem (ts : List Tree) : Bool :=
  let next := ts.drop 1
  beginsWordOf itemWords ts ||
    (beginsWord "crate" ts && !beginsWith [':', ':'] next) ||
    (beginsWord "static" ts && (beginsWord "mut" next || beginsIdentifier next)) ||
    (beginsWord "const" ts && !goesOnAfterConst next) ||
    (beginsWord "unsafe" ts && !beginsGroup .brace next) ||
    (beginsWord "async" ts && beginsWordOf ["unsafe", "extern", "fn"] next) ||
    (beginsWord "union" ts && beginsIdentifier next) ||
    (beginsWord "auto" ts && beginsWord "trait" next) ||
    (beginsWord "default" ts && beginsWordOf ["unsafe", "impl"] next)

/-- The trees after a path of names and an exclamation mark, if these stand next. -/
def afterBang? : Reader (Option (List Tree)) := do
  match name.run (← get) with
  | some (_, .mark '!' _ :: rest) => return some rest
  | _ => return none

/-- Whether a call by name with braces stands next, and nothing goes on from it. -/
def endsWithBraces (rest : List Tree) : Bool :=
  let next := rest.drop 1
  let goesOn :=
    (beginsWith ['.'] next && !(beginsWith ['.'] (next.drop 1))) || beginsWith ['?'] next
  beginsGroup .brace rest && !goesOn

/-- Puts attributes before the leftmost operand of an expression. -/
def attributeLeftmost (as : List Node) : Node → Node
  | .assign l r => .assign (attributeLeftmost as l) r
  | .binary op l r => .binary op (attributeLeftmost as l) r
  | .cast e t => .cast (attributeLeftmost as e) t
  | n => withAttributes as n

mutual

def typeEndsInBrace : Node → Bool
  | .invocation call => call.delimiter = .brace
  | .functionType _ _ output => lastEndsInBrace output
  | .quantified _ n => typeEndsInBrace n
  | .pointer _ t => typeEndsInBrace t
  | .reference _ _ t => typeEndsInBrace t
  | .path _ _ _ segments => anyLastEndsInBrace segments
  | .functionSegment _ _ output => lastEndsInBrace output
  | .object bounds => anyLastEndsInBrace bounds
  | .anonymous bounds => anyLastEndsInBrace bounds
  | .relaxed b => typeEndsInBrace b
  | _ => false

def lastEndsInBrace : Option Node → Bool
  | none => false
  | some n => typeEndsInBrace n

def anyLastEndsInBrace : List Node → Bool
  | [] => false
  | [n] => typeEndsInBrace n
  | _ :: ns => anyLastEndsInBrace ns

end

mutual

/-- Whether an expression ends in a brace, after which `else` would be its own. -/
def endsInBrace : Node → Bool
  | .attributed _ n => endsInBrace n
  | .quantified _ n => endsInBrace n
  | .block .. => true
  | .forLoop .. => true
  | .conditional .. => true
  | .loop .. => true
  | .selection .. => true
  | .record .. => true
  | .whileLoop .. => true
  | .assign _ r => endsInBrace r
  | .binary _ _ r => endsInBrace r
  | .jump _ _ value => someEndsInBrace value
  | .cast _ t => typeEndsInBrace t
  | .closure _ _ _ body => endsInBrace body
  | .matches _ e => endsInBrace e
  | .invocation call => call.delimiter = .brace
  | .range _ _ high => someEndsInBrace high
  | .address _ e => endsInBrace e
  | .reference _ _ e => endsInBrace e
  | .unary _ e => endsInBrace e
  | _ => false

def someEndsInBrace : Option Node → Bool
  | none => false
  | some n => endsInBrace n

end

section

variable (g : Readers)

def binding : Reader Node := do
  let p ← typedPattern g
  let initial ← if ← accept "=" then pure (some (← expression g)) else pure none
  let mayElse := match initial with
    | some e => !endsInBrace e
    | none => false
  let otherwise ← if mayElse && (← seesWord "else") then
      expectWord "else"
      pure (some (.block none "" [] (← statements g)))
    else pure none
  expect ";"
  return .binding p initial otherwise

/-- Takes a call by name with braces as a statement. -/
def bracedStatement : Reader Node := do
  let call ← invocation
  return .invocationStatement call (← accept ";")

/-- Takes an expression as a statement. It needs a semicolon unless it ends with its block, or is
the last. -/
def expressionStatement (as : List Node) : Reader Node := do
  let e ← g .leading
  let e := if as.isEmpty then e else attributeLeftmost as e
  let ended ← accept ";"
  match e.bare with
  | .invocation call =>
    if ended || call.delimiter = .brace then
      let outer := match e with
        | .attributed as _ => as
        | _ => []
      return withAttributes outer (.invocationStatement call ended)
  | _ => pure ()
  if ended then return .effect e
  require (e.standsAlone || (← atEnd))
  return .value e

def statementStep : Reader Node := do
  if ← accept ";" then return .empty
  let as ← outerAttributes g
  let ts ← get
  match ← afterBang? with
  | some rest =>
    if beginsIdentifier rest || beginsWord "try" rest then
      return withAttributes as (← bareItem g)
    if endsWithBraces rest then return withAttributes as (← bracedStatement)
  | none => pure ()
  if beginsWord "let" ts then
    expectWord "let"
    return withAttributes as (← binding g)
  if beginsItem ts then return withAttributes as (← bareItem g)
  expressionStatement g as

end

end EnumForge.Source.Grammar
