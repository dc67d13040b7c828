import EnumForge.Source.Grammar.Basic

namespace EnumForge.Source.Grammar

section

variable (g : Readers)

def expression : Reader Node := g (.expression true 0)

/-- The path that an attribute begins with; one word of the language stands for itself. -/
def attributePath : Reader Name := do
  if ← acceptWord "unsafe" then return ⟨false, ["unsafe"]⟩ else name

/-- The value that an attribute gives: a literal by itself, or an expression without attributes. -/
def attributeGiven : Reader Node := do
  match literalValue.run (← get) with
  | some (v, []) => set ([] : List Tree); return v
  | _ =>
    require !(beginsWith ['#'] (← get))
    expression g

def attributeContent (inner : Bool) : Reader Node := do
  let n ← attributePath
  match ← get with
  | .group d trees :: ts => set ts; return .attributeCall inner ⟨n, d, trees⟩
  | _ =>
    if ← accept "=" then return .attributeValue inner n (← attributeGiven g)
    return .attributeName inner n

/-- Takes the attributes of what follows. -/
def outerAttributesFrom : Nat → Reader (List Node)
  | 0 => failure
  | fuel + 1 => do
    if !(← sees "#") then return []
    expect "#"
    let a ← (attributeContent g false).whole? (← group .bracket)
    return a :: (← outerAttributesFrom fuel)

def outerAttributes : Reader (List Node) := do
  outerAttributesFrom g ((← get).length + 1)

/-- Takes the attributes of what contains them. -/
def innerAttributesFrom : Nat → Reader (List Node)
  | 0 => failure
  | fuel + 1 => do
    match ← get with
    | .mark '#' _ :: .mark '!' _ :: ts =>
      set ts
      let a ← (attributeContent g true).whole? (← group .bracket)
      return a :: (← innerAttributesFrom fuel)
    | _ => return []

def innerAttributes : Reader (List Node) := do
  innerAttributesFrom g ((← get).length + 1)

/-- Puts attributes before a construct. -/
def withAttributes (attributes : List Node) (n : Node) : Node :=
  match attributes, n with
  | [], n => n
  | _, .unwritable => .unwritable
  | as, .attributed bs n => .attributed (as ++ bs) n
  | as, n => .attributed as n

def attributedBy (p : Reader Node) : Reader Node := do
  let as ← outerAttributes g
  return withAttributes as (← p)

def statements : Reader (List Node) := do many? (g .statement) (← group .brace)

/-- Takes braces that hold attributes of their own, and what a goal says after these. -/
def bodyOf (goal : Goal) : Reader (List Node × List Node) := do
  let (inner, ts) ← (innerAttributes g).run (← group .brace)
  return (inner, ← many? (g goal) ts)

end

end EnumForge.Source.Grammar
