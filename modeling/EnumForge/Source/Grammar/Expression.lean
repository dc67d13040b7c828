import EnumForge.Source.Grammar.Operand

namespace EnumForge.Source.Grammar

def changingOperators : List String :=
  ["<<=", ">>=", "+=", "-=", "*=", "/=", "%=", "^=", "&=", "|="]

/-- Operators with their ranks, the longest first. -/
def operators : List (String × Nat) :=
  changingOperators.map (·, 1) ++
    [("&&", 4), ("||", 3), ("<<", 9), (">>", 9), ("==", 5), ("<=", 5), ("!=", 5), (">=", 5),
      ("+", 10), ("-", 10), ("*", 11), ("/", 11), ("%", 11), ("^", 7), ("&", 8), ("|", 6),
      ("<", 5), (">", 5)]

/-- Ranks of assignments, of ranges, of comparisons and of casts. -/
def assignmentRank : Nat := 1
def rangeRank : Nat := 2
def comparisonRank : Nat := 5
def castRank : Nat := 12

def nextOperator? : Reader (Option (String × Nat)) := do
  let ts ← get
  return operators.find? fun o => beginsWith o.1.toList ts

def isComparison : Node → Bool
  | .binary op _ _ => operators.any fun o => o == (op, comparisonRank)
  | _ => false

/-- Whether what stands next would go on from a cast, which it may not. -/
def goesOnFromCast (ts : List Tree) : Bool :=
  (beginsWith ['.'] ts && !beginsWith ['.', '.'] ts) || beginsWith ['?'] ts ||
    beginsGroup .bracket ts || beginsGroup .paren ts

section

variable (g : Readers)

/-- Takes the rest of an operation of a rank after its operator. -/
def rightSide (records : Bool) (rank : Nat) : Reader Node :=
  g (.expression records (if rank = assignmentRank then rank else rank + 1))

/-- Takes one operator that binds at least as a rank says, and what stands on its right. -/
def operationStep (records : Bool) (rank : Nat) (l : Node) : Reader (Option Node) := do
  if isRange l then return none
  if let some (op, r) ← nextOperator? then
    if r < rank then return none
    require !(r == comparisonRank && isComparison l)
    expect op
    return some (.binary op l (← rightSide g records r))
  let ts ← get
  if rank ≤ assignmentRank && beginsWith ['='] ts && !beginsWith ['=', '>'] ts then
    expect "="
    return some (.assign l (← rightSide g records assignmentRank))
  if rank ≤ rangeRank && beginsWith ['.', '.'] ts then
    require !(← sees "...")
    let closed ← rangeMark
    return some (.range (some l) (rangeText closed) (← atom.rangeTop g records closed))
  if rank ≤ castRank && beginsWord "as" ts then
    expectWord "as"
    let t ← g (.type false)
    require !(goesOnFromCast (← get))
    return some (.cast l t)
  return none

/-- Takes the operators that follow an operand and bind at least as a rank says. -/
def operationsFrom (records : Bool) (rank : Nat) : Nat → Node → Reader Node
  | 0, _ => failure
  | fuel + 1, l => do
    match ← operationStep g records rank l with
    | some e => operationsFrom records rank fuel e
    | none => return l

def operations (records : Bool) (rank : Nat) (l : Node) : Reader Node := do
  operationsFrom g records rank ((← get).length + 1) l

/-- Takes an expression whose operators bind at least as a rank says. -/
def expressionStep (records : Bool) (rank : Nat) : Reader Node := do
  operations g records rank (← g (.operand records))

/-- Words that begin an expression which ends with its block. -/
def blockWords : List String := ["if", "while", "loop", "match", "unsafe"]

def beginsBlock (ts : List Tree) : Bool :=
  beginsWordOf blockWords ts || (beginsWord "for" ts && !beginsClosure ts) ||
    ((beginsWord "try" ts || beginsWord "const" ts) && beginsGroup .brace (ts.drop 1)) ||
    beginsGroup .brace ts || beginsLifetime ts

/-- Takes an expression at the head of a statement or of an arm: a block ends it unless a point or a
question mark goes on from it. -/
def leadingStep : Reader Node := do
  let as ← outerAttributes g
  if !beginsBlock (← get) then
    return ← operations g true 0 (withAttributes as (← g (.operand true)))
  let e ← atom g true
  if (← sees "?") || ((← sees ".") && !(← sees "..")) then
    return ← operations g true 0 (withAttributes as (← follow g e))
  return withAttributes as e

end

end EnumForge.Source.Grammar
