import EnumForge.Source.Grammar.Control

namespace EnumForge.Source.Grammar

def beginsExpression (ts : List Tree) : Bool :=
  let is := fun (op : String) => beginsWith op.toList ts
  let any := fun (ops : List String) => ops.any is
  (match ts with
  | .word w :: _ => w != "as"
  | .group .. :: _ => true
  | .literal _ :: _ => true
  | _ => false) ||
    (is "!" && !is "!=") || (is "-" && !any ["-=", "->"]) || (is "*" && !is "*=") ||
    (is "|" && !is "|=") || (is "&" && !is "&=") || (is "<" && !any ["<=", "<<="]) ||
    any ["..", "::", "#"] || beginsLifetime ts

section

variable (g : Readers)

/-- Takes the value that a jump takes along, if one stands next. -/
def carried (records : Bool) : Reader (Option Node) := do
  let ts ← get
  if beginsExpression ts && (records || !beginsGroup .brace ts) then
    return some (← g (.expression records 0))
  return none

def breakOff (records : Bool) : Reader Node := do
  expectWord "break"
  let label ← acceptLifetime
  require !(label.isSome && (← sees ":"))
  return .jump "break" label (← carried g records)

def bareFieldValue : Reader Node := do
  match ← get with
  | .literal t :: ts =>
    let member ← (decimalIndex? t : Reader String)
    set ts
    expect ":"
    return .fieldValue member (some (← expression g))
  | _ =>
    let n ← identifier
    if ← accept ":" then return .fieldValue n (some (← expression g))
    return .fieldValue n none

/-- Reads the fields of a record, and the record that gives the other fields. -/
def fieldValuesFrom : Nat → Reader (List Node × Option Node)
  | 0 => failure
  | fuel + 1 => do
    if ← atEnd then return ([], none)
    if ← accept ".." then
      if ← atEnd then return ([], none) else return ([], some (← expression g))
    let f ← attributedBy g (bareFieldValue g)
    if ← atEnd then return ([f], none)
    expect ","
    let (fs, rest) ← fieldValuesFrom fuel
    return (f :: fs, rest)

/-- Takes what begins with a path: a record, a call by name, or the path alone. -/
def pathOperand (records : Bool) : Reader Node := do
  let p ← path g .value
  if let some call ← acceptInvocation p then return .invocation call
  match ← get with
  | .group .brace ts :: rest =>
    if !records then return p
    let (fields, others) ← (fieldValuesFrom g (ts.length + 1)).whole? ts
    set rest
    return .record p fields others
  | _ => return p

def bracketedItems : Reader Node := do
  if ← atEnd then return .array []
  let e ← expression g
  if ← accept ";" then return .repeated e (← expression g)
  if ← atEnd then return .array [e]
  expect ","
  let (es, _) ← items? (expression g) (← get)
  set ([] : List Tree)
  return .array (e :: es)

/-- An expression in parentheses, several, or none. -/
def parenthesizedItems (ts : List Tree) : Option Node := do
  match ← items? (expression g) ts with
  | ([e], false) => return .grouped e
  | (es, _) => return .tuple es

def builtIn : Reader Node := do
  expectWord "builtin"
  expect "#"
  let _ ← wordSuch fun _ => true
  let _ ← group .paren
  return .unwritable

def matching (records : Bool) : Reader Node := do
  expectWord "let"
  let p ← g .alternatives
  expect "="
  return .matches p (← g (.expression records 5))

def wordOperand (records : Bool) (w : String) : Reader Node := do
  match w with
  | "true" => literalValue
  | "false" => literalValue
  | "_" => expectWord w; return .inferred
  | "if" => conditional g
  | "match" => selection g
  | "loop" => loop g none
  | "while" => whileLoop g none
  | "for" => forLoop g none
  | "unsafe" => expectWord w; blockAfter g none "unsafe "
  | "const" => expectWord w; blockAfter g none "const "
  | "return" => expectWord w; return .jump w none (← carried g true)
  | "yield" => expectWord w; return .jump w none (← carried g true)
  | "break" => breakOff g records
  | "continue" => expectWord w; return .jump w (← acceptLifetime) none
  | "let" => matching g records
  | "become" =>
    expectWord w
    let _ ← expression g
    return .unwritable
  | "try" =>
    let ts ← get
    if beginsGroup .brace (ts.drop 1) then
      expectWord w
      return .block none "try " [] (← statements g)
    require (["!", "::"].any fun op => beginsWith op.toList (ts.drop 1))
    pathOperand g records
  | _ => pathOperand g records

def atom (records : Bool) : Reader Node := do
  let ts ← get
  if beginsAsyncBlock ts then return ← asyncBlock g
  if beginsWith ['|'] ts || beginsClosure ts then return ← closure g records
  if beginsWord "builtin" ts && beginsWith ['#'] (ts.drop 1) then return ← builtIn
  match ts with
  | .literal t :: rest => set rest; return .literal t
  | .group .paren inside :: rest => set rest; parenthesizedItems g inside
  | .group .bracket inside :: rest =>
    let n ← (bracketedItems g).whole? inside
    set rest
    return n
  | .group .brace _ :: _ => blockAfter g none ""
  | .word w :: _ => wordOperand g records w
  | _ =>
    if beginsLifetime ts then labelled g
    else
      if ← sees ".." then
        require !(← sees "...")
        let closed ← rangeMark
        return .range none (rangeText closed) (← rangeTop records closed)
      pathOperand g records
where
  /-- Takes the upper end of a range, if it has one. -/
  rangeTop (records closed : Bool) : Reader (Option Node) := do
    if !closed && endsOperand records (← get) then return none
    return some (← g (.expression records 3))
  /-- Whether no upper end of a range stands next. -/
  endsOperand (records : Bool) (ts : List Tree) : Bool :=
    let is := fun (op : String) => beginsWith op.toList ts
    ts.isEmpty || (is "." && !is "..") || beginsWord "as" ts ||
      (!records && beginsGroup .brace ts) ||
      [",", ";", "?", "=>", "=", "+", "/", "%", "^", ">", "<=", "!=", "-=", "*=", "&=", "|=",
        "<<="].any is

def isRange (n : Node) : Bool :=
  match n.bare with
  | .range .. => true
  | _ => false

/-- The fields that a number after a point names; it may hold a point itself. Also says whether it
ends in a point, so that one more field follows. -/
def fieldsOf? (e : Node) (text : String) : Option (Node × Bool) := do
  let parts := text.splitToList (· = '.')
  let trailing := parts.getLast? == some ""
  let parts := if trailing then parts.dropLast else parts
  let members ← parts.mapM decimalIndex?
  if text.isEmpty then none else some (members.foldl .field e, trailing)

def member (e : Node) : Reader Node := do
  if ← acceptWord "await" then return .await e
  match ← get with
  | .literal t :: ts =>
    let i ← (decimalIndex? t : Reader String)
    set ts
    return .field e i
  | _ =>
    let n ← identifier
    let generics ← if ← sees "::" then pure (some (← angleArguments g)) else pure none
    match ← nextGroup? .paren with
    | some ts =>
      let (es, _) ← items? (expression g) ts
      modify (·.drop 1)
      return .method e n (generics.getD []) es
    | none =>
      require generics.isNone
      return .field e n

def afterPoint (e : Node) : Reader Node := do
  match ← get with
  | .literal t :: ts =>
    if !t.contains '.' then return ← member g e
    let (e, trailing) ← (fieldsOf? e t : Reader (Node × Bool))
    set ts
    if trailing then member g e else return e
  | _ => member g e

/-- Takes what follows an operand: calls, indices, fields, question marks. -/
def followFrom : Nat → Node → Reader Node
  | 0, _ => failure
  | fuel + 1, e => do
    match ← get with
    | .group .paren ts :: rest =>
      let (es, _) ← items? (expression g) ts
      set rest
      followFrom fuel (.call e es)
    | .group .bracket ts :: rest =>
      let i ← (expression g).whole? ts
      set rest
      followFrom fuel (.index e i)
    | ts =>
      if isRange e then return e
      if ← accept "?" then return ← followFrom fuel (.propagate e)
      if !beginsWith ['.'] ts || beginsWith ['.', '.'] ts then return e
      expect "."
      let e ← afterPoint g e
      followFrom fuel e

def follow (e : Node) : Reader Node := do followFrom g ((← get).length + 1) e

/-- Takes an operand after a reference mark: a reference, or an address. -/
def referred (records : Bool) : Reader Node := do
  let ts ← get
  if beginsWord "raw" ts && beginsWordOf ["mut", "const"] (ts.drop 1) then
    expectWord "raw"
    let w ← wordSuch fun _ => true
    return .address w (← g (.operand records))
  let mutable ← acceptWord "mut"
  return .reference none mutable (← g (.operand records))

def operandStep (records : Bool) : Reader Node := do
  let as ← outerAttributes g
  match ← get with
  | .mark '&' _ :: rest => set rest; return withAttributes as (← referred g records)
  | .mark c _ :: rest =>
    if ['-', '!', '*'].contains c then
      set rest
      return withAttributes as (.unary c.toString (← g (.operand records)))
    tail as
  | _ => tail as
where
  /-- Takes an operand without prefixes, and what follows it. -/
  tail (as : List Node) : Reader Node := do
    let e ← follow g (← atom g records)
    require (as.isEmpty || !isRange e)
    return withAttributes as e

end

end EnumForge.Source.Grammar
