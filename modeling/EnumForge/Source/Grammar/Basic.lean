import EnumForge.Source.Node
import EnumForge.Source.Literal
import EnumForge.Source.Word

namespace EnumForge.Source.Grammar

/-- Takes what it reads from the head of some trees; none when something else stands there. -/
abbrev Reader := StateT (List Tree) Option

/-- What may hold items of its own. -/
inductive Place
  | trait
  | implementation
  | foreign
deriving DecidableEq, Repr

/-- What is to be read. Bounds may be summed in a type or not; a bound may name captures, or say
that it is constant; an expression may be a record or not, and takes operators from a rank on; one
at the head of a statement or of an arm ends with its first block. -/
inductive Goal
  | type (sums : Bool)
  | bound (captures constants : Bool)
  | parameter
  | pattern
  | alternatives
  | expression (records : Bool) (rank : Nat)
  | operand (records : Bool)
  | leading
  | statement
  | item
  | member (place : Place)
deriving DecidableEq, Repr

/-- Readers of what may stand inside a construct. -/
abbrev Readers := Goal → Reader Node

/-- Whether some trees begin with the characters of an operator, each of which runs into the next.
-/
def beginsWith : List Char → List Tree → Bool
  | [], _ => true
  | [c], .mark d _ :: _ => c == d
  | c :: cs, .mark d true :: ts => c == d && beginsWith cs ts
  | _, _ => false

/-- What a reader makes of some trees when it takes them all. -/
def Reader.whole? {α : Type} (p : Reader α) (ts : List Tree) : Option α :=
  match p.run ts with
  | some (a, []) => some a
  | _ => none

def atEnd : Reader Bool := return (← get).isEmpty

def sees (op : String) : Reader Bool := return beginsWith op.toList (← get)

def accept (op : String) : Reader Bool := do
  if ← sees op then
    modify (·.drop op.length)
    return true
  else return false

/-- Takes an operator where it may stand, if it stands next. -/
def acceptIf (allowed : Bool) (op : String) : Reader Bool :=
  if allowed then accept op else return false

def expect (op : String) : Reader Unit := do
  if ← accept op then return () else failure

/-- The word that stands next. -/
def nextWord? : Reader (Option String) := do
  match ← get with
  | .word w :: _ => return some w
  | _ => return none

def seesWord (w : String) : Reader Bool := return (← nextWord?) == some w

def acceptWord (w : String) : Reader Bool := do
  if ← seesWord w then
    modify (·.drop 1)
    return true
  else return false

def expectWord (w : String) : Reader Unit := do
  if ← acceptWord w then return () else failure

def wordSuch (p : String → Bool) : Reader String := do
  match ← nextWord? with
  | some w => if p w then modify (·.drop 1); return w else failure
  | none => failure

def identifier : Reader String := wordSuch fun w => !keywords.contains w

def seesLifetime : Reader Bool := do
  match ← get with
  | .mark '\'' _ :: .word _ :: _ => return true
  | _ => return false

def lifetime : Reader String := do
  match ← get with
  | .mark '\'' _ :: .word w :: ts => set ts; return "'" ++ w
  | _ => failure

def acceptLifetime : Reader (Option String) := do
  if ← seesLifetime then return some (← lifetime) else return none

def nextGroup? (d : Delimiter) : Reader (Option (List Tree)) := do
  match ← get with
  | .group e ts :: _ => return if d = e then some ts else none
  | _ => return none

def seesGroup (d : Delimiter) : Reader Bool := return (← nextGroup? d).isSome

/-- Takes a bracket and gives its trees. -/
def group (d : Delimiter) : Reader (List Tree) := do
  match ← nextGroup? d with
  | some ts => modify (·.drop 1); return ts
  | none => failure

/-- Reads trees to their end, with a comma after each item; the last comma may be missing. Also says
whether it is there. Each item takes a tree, so their number is fuel enough. -/
def itemsFrom {α : Type} (p : Reader α) : Nat → List Tree → Option (List α × Bool)
  | 0, _ => none
  | _ + 1, [] => some ([], true)
  | fuel + 1, ts =>
    match p.run ts with
    | some (a, []) => some ([a], false)
    | some (a, .mark ',' _ :: ts) => (itemsFrom p fuel ts).map fun r => (a :: r.1, r.2)
    | _ => none

/-- Items of a bracket, and whether a comma follows the last one. -/
def items? {α : Type} (p : Reader α) (ts : List Tree) : Option (List α × Bool) :=
  itemsFrom p (ts.length + 1) ts

/-- Takes a bracket that holds items. -/
def itemsIn {α : Type} (d : Delimiter) (p : Reader α) : Reader (List α) := do
  return (← items? p (← group d)).1

def itemsUntilFrom {α : Type} (op : String) (p : Reader α) : Nat → Reader (List α)
  | 0 => failure
  | fuel + 1 => do
    if ← accept op then return []
    let a ← p
    if ← accept "," then return a :: (← itemsUntilFrom op p fuel)
    expect op
    return [a]

def itemsUntil {α : Type} (op : String) (p : Reader α) : Reader (List α) := do
  itemsUntilFrom op p ((← get).length + 1)

def joinedFrom {α : Type} (op : String) (p : Reader α) : Nat → Reader (List α)
  | 0 => failure
  | fuel + 1 => do
    let a ← p
    if ← accept op then return a :: (← joinedFrom op p fuel) else return [a]

def joined {α : Type} (op : String) (p : Reader α) : Reader (List α) := do
  joinedFrom op p ((← get).length + 1)

def manyFrom {α : Type} (p : Reader α) : Nat → List Tree → Option (List α)
  | 0, _ => none
  | _ + 1, [] => some []
  | fuel + 1, ts => (p.run ts).bind fun r => (manyFrom p fuel r.2).map (r.1 :: ·)

def many? {α : Type} (p : Reader α) (ts : List Tree) : Option (List α) :=
  manyFrom p (ts.length + 1) ts

/-- Reads items with an operator between each two up to where they end; an operator may follow the
last one. -/
def summedUntilFrom {α : Type} (op : String) (ends : List Tree → Bool) (p : Reader α) :
    Nat → Reader (List α)
  | 0 => failure
  | fuel + 1 => do
    if ends (← get) then return []
    let a ← p
    if ← accept op then return a :: (← summedUntilFrom op ends p fuel) else return [a]

def summedUntil {α : Type} (op : String) (ends : List Tree → Bool) (p : Reader α) :
    Reader (List α) := do
  summedUntilFrom op ends p ((← get).length + 1)

def attempt {α : Type} (p : Reader α) : Reader (Option α) := do
  match p.run (← get) with
  | some (a, ts) => set ts; return some a
  | none => return none

def beginsWord (w : String) : List Tree → Bool
  | .word v :: _ => v == w
  | _ => false

def beginsWordOf (ws : List String) : List Tree → Bool
  | .word w :: _ => ws.contains w
  | _ => false

def beginsIdentifier : List Tree → Bool
  | .word w :: _ => !keywords.contains w
  | _ => false

def beginsGroup (d : Delimiter) : List Tree → Bool
  | .group e _ :: _ => d == e
  | _ => false

def beginsLifetime : List Tree → Bool
  | .mark '\'' _ :: .word _ :: _ => true
  | _ => false

def isNumber (text : String) : Bool := text.toList.head?.any isDecimalDigit

/-- Whether trees begin with a value that is written out: a literal, a negative number, or a truth
value. -/
def beginsLiteral : List Tree → Bool
  | .literal _ :: _ => true
  | .mark '-' _ :: .literal t :: _ => isNumber t
  | .word w :: _ => w == "true" || w == "false"
  | _ => false

def literalValue : Reader Node := do
  if !beginsLiteral (← get) then failure
  match ← get with
  | .literal t :: ts => set ts; return .literal t
  | .mark _ _ :: .literal t :: ts => set ts; return .literal ("-" ++ t)
  | .word w :: ts => set ts; return .literal w
  | _ => failure

/-- The number that a place in a tuple is named by: a whole number without a suffix, in decimal
digits. -/
def decimalIndex? (text : String) : Option String := do
  let n ← wholeValue? text.toList
  if n < 0x100000000 then some (toString n) else none

def isText (text : String) : Bool := text.toList.head?.any fun c => c = '"' || c = 'r'

/-- Words that name where a path starts. -/
def pathWords : List String := ["self", "Self", "super", "crate"]

def pathWord : Reader String := wordSuch fun w => !keywords.contains w || pathWords.contains w

/-- Whether trees begin with a path that does not start from a type. -/
def beginsPath (ts : List Tree) : Bool :=
  beginsIdentifier ts || beginsWordOf pathWords ts || beginsWith [':', ':'] ts

def name : Reader Name := do
  let fromRoot ← accept "::"
  return ⟨fromRoot, ← joined "::" pathWord⟩

def anyGroup : Reader (Delimiter × List Tree) := do
  match ← get with
  | .group d trees :: ts => set ts; return (d, trees)
  | _ => failure

/-- Takes an exclamation mark and the brackets after it: a call by a name that has been read. -/
def invocationOf (n : Name) : Reader Invocation := do
  expect "!"
  let (d, trees) ← anyGroup
  return ⟨n, d, trees⟩

def invocation : Reader Invocation := do invocationOf (← name)

/-- Takes nothing but says no, where a condition does not hold. -/
def require (c : Bool) : Reader Unit := if c then return () else failure

end EnumForge.Source.Grammar
