import EnumForge.Source.Grammar.Item

namespace EnumForge.Source.Grammar

section

variable (g : Readers)

def invocationMember : Reader Node := do
  let call ← invocation
  if call.delimiter ≠ .brace then expect ";"
  return .invocationItem call none

/-- Whether a call by name may stand next. -/
def beginsInvocation (ts : List Tree) : Bool := beginsPath ts && !beginsWord "Self" ts

/-- Takes an item of a trait without the attributes before it. One that is seen by some or has a
default mark has no written form. -/
def traitMember : Reader Node := do
  let seen ← visibility
  let marked ← acceptWord "default"
  let plain := seen = .inherited && !marked
  let ts ← get
  let n ←
    if beginsFunction false ts then function g true .inherited ""
    else if beginsWord "const" ts then
      expectWord "const"
      constant g true .inherited ""
    else if beginsWord "type" ts then
      expectWord "type"
      aliasOf g .associated .inherited ""
    else
      require (plain && beginsInvocation ts)
      invocationMember
  return if plain then n else .unwritable

/-- Another name for a type, as an implementation gives it: without bounds, and with a type. -/
def givenAlias (n : Node) : Node :=
  match n with
  | .synonym _ _ _ _ _ _ [] (some _) => n
  | _ => .unwritable

def aliasMember (seen : Visibility) (before : String) : Reader Node := do
  let bounded := beginsBounds (← get)
  let n ← aliasOf g .associated seen before
  return if bounded then .unwritable else givenAlias n
where
  /-- Whether a name and a colon stand next. -/
  beginsBounds (ts : List Tree) : Bool := beginsWith [':'] (ts.drop 1)

/-- Takes an item of an implementation without the attributes before it. -/
def implementationMember : Reader Node := do
  let seen ← visibility
  let marked := beginsWord "default" (← get) && !beginsWith ['!'] ((← get).drop 1)
  let before ← if marked then wordBefore "default" else pure ""
  let ts ← get
  if beginsFunction false ts then return ← function g false seen before
  if beginsWord "const" ts then
    expectWord "const"
    return ← constant g false seen before
  if beginsWord "type" ts then
    expectWord "type"
    return ← aliasMember g seen before
  require (seen == .inherited && !marked && beginsInvocation ts)
  invocationMember

def foreignFunction (seen : Visibility) : Reader Node := do
  let (f, declared) ← signature g true seen ""
  if ← seesGroup .brace then
    let _ ← bodyOf g .statement
    return .unwritable
  expect ";"
  return if declared then .unwritable else f

/-- Takes a constant that is defined elsewhere, with the words that declare how safe it is. -/
def foreignStatic (seen : Visibility) : Reader Node := do
  let dangerous ← acceptWord "unsafe"
  let safe ← if dangerous then pure false else acceptWord "safe"
  expectWord "static"
  let mutable ← wordBefore "mut"
  let n ← identifier
  expect ":"
  let t ← ty g
  let value ← if ← accept "=" then pure (some (← expression g)) else pure none
  expect ";"
  if dangerous || safe || value.isSome then return .unwritable
  return .constant seen ("static " ++ mutable) n t none

def foreignMember : Reader Node := do
  let seen ← visibility
  let ts ← get
  if beginsFunction true ts then return ← foreignFunction g seen
  if beginsWord "static" ts ||
      (beginsWordOf ["unsafe", "safe"] ts && beginsWord "static" (ts.drop 1)) then
    return ← foreignStatic g seen
  if beginsWord "type" ts then
    expectWord "type"
    return ← aliasOf g .foreign seen ""
  require (seen == .inherited && beginsInvocation ts)
  invocationMember

def memberStep (place : Place) : Reader Node := attributedBy g <|
  match place with
  | .trait => traitMember g
  | .implementation => implementationMember g
  | .foreign => foreignMember g

end

end EnumForge.Source.Grammar
