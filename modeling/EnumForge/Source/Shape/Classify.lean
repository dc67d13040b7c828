import EnumForge.Source.Grammar.Expression

namespace EnumForge.Source.Shape

/-- Whether an expression has brackets of its own, so that a call need not break around it. -/
def hasBrackets : Node → Bool
  | .array _ => true
  | .block .. => true
  | .closure .. => true
  | .quantified _ (.closure ..) => true
  | .record .. => true
  | .tuple _ => true
  | _ => false

/-- Whether an expression is a name so short that a point may follow it in its line. -/
def isShortName : Node → Bool
  | .path none _ false [.segment n _ []] => n.utf8ByteSize ≤ 4
  | _ => false

/-- Whether a line must end before the brace that follows a broken expression. -/
def endsLineBeforeBrace : Node → Bool
  | .attributed _ e => endsLineBeforeBrace e
  | .assign .. => true
  | .await _ => true
  | .binary .. => true
  | .cast .. => true
  | .field .. => true
  | .index .. => true
  | .method .. => true
  | .call f _ => endsLineBeforeBrace f
  | .grouped e => endsLineBeforeBrace e
  | .matches _ e => endsLineBeforeBrace e
  | .reference _ _ e => endsLineBeforeBrace e
  | .address _ e => endsLineBeforeBrace e
  | .propagate e => endsLineBeforeBrace e
  | .unary _ e => endsLineBeforeBrace e
  | .jump _ _ (some e) => endsLineBeforeBrace e
  | .range _ _ (some e) => endsLineBeforeBrace e
  | _ => false

def isPlainLiteral (t : String) : Bool :=
  match t.toList with
  | '\'' :: _ => true
  | 'b' :: '\'' :: _ => true
  | 't' :: _ => true
  | 'f' :: _ => true
  | s => Grammar.isNumber t && !isReal s
where
  /-- Whether a number has a point or a power of ten. -/
  isReal (s : List Char) : Bool := (realLength s).isSome

/-- Whether the elements of an array may share lines. -/
def shareLines (es : List Node) : Bool :=
  es.all fun e =>
    match e.bare with
    | .literal t => isPlainLiteral t
    | _ => false

/-- Whether an expression that gives a block its value is written with a semicolon. -/
def takesSemicolon (e : Node) : Bool :=
  match e.bare with
  | .assign .. => true
  | .jump .. => true
  | .binary op _ _ => Grammar.changingOperators.contains op
  | _ => false

/-- Whether an expression that is a statement is written without a semicolon. -/
def dropsSemicolon : Node → Bool
  | .attributed _ e => dropsSemicolon e
  | .forLoop .. => true
  | .whileLoop .. => true
  | .conditional _ _ none => true
  | .conditional _ _ (some e) => dropsSemicolon e
  | _ => false

def needsSemicolon (e : Node) : Bool :=
  match e.bare with
  | .invocation call => call.delimiter ≠ .brace
  | e => !e.standsAlone

/-- Whether an expression can be read as a statement: what it begins with does not end one before
its end. -/
def readsAsStatement : Node → Bool
  | .attributed _ e => readsAsStatement e
  | .assign l _ => needsSemicolon l && readsAsStatement l
  | .binary _ l _ => needsSemicolon l && readsAsStatement l
  | .call f _ => needsSemicolon f && readsAsStatement f
  | .cast e _ => needsSemicolon e && readsAsStatement e
  | .index e _ => needsSemicolon e && readsAsStatement e
  | .range (some l) _ _ => needsSemicolon l && readsAsStatement l
  | .await e => readsAsStatement e
  | .field e _ => readsAsStatement e
  | .method e _ _ _ => readsAsStatement e
  | .propagate e => readsAsStatement e
  | _ => true

end EnumForge.Source.Shape
