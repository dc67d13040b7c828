import EnumForge.Source.Shape.Call
import EnumForge.Source.Shape.Classify
import EnumForge.Source.Shape.Pattern

namespace EnumForge.Source.Shape

open Layout Layout.Builder

def statements (body : List Form) : Builder := each (fun last f => f.whole last) body

/-- The attributes and the statements that a block holds. -/
def contents (inner body : List Form) : Builder := all [inOrder inner, statements body]

def bracedLines (inside : Builder) : Builder :=
  all [word "\x7b", neverBreak, firm indent, lineIfNonempty, inside, Builder.offset (-indent),
    close, word "\x7d"]

/-- Whether a statement gives a block its value. -/
def givesValue (f : Form) : Bool :=
  match f.node with
  | .value _ => true
  | _ => false

/-- A block written in one line where it fits, in a block that is open. -/
def smallBlock (inner body : List Form) : Builder :=
  if inner.isEmpty && body.isEmpty then word "\x7b\x7d"
  else
    all [word "\x7b", space, inOrder inner,
      match body with
      | [f] => if givesValue f then all [loose 0, f.bare, close, space] else f.whole true
      | _ => statements body,
      Builder.offset (-indent), word "\x7d"]

/-- The mark that opens a body put in brackets, and the text that closes it. -/
def bodyBrackets (e : Node) : Char × String :=
  if readsAsStatement e then ('\x7b', "\x7d") else ('(', ")")

def bodyEnd (e : Node) : Option Char :=
  if readsAsStatement e && takesSemicolon e then some ';' else none

/-- The body of an arm, in brackets where it does not fit. -/
def armBody (f : Form) : Builder :=
  let (opens, closes) := bodyBrackets f.node
  f.arm.getD <|
    all [neverBreak, firm indent, gap { Gap.plain 0 with before := some opens }, f.whole true,
      gap { Gap.plain 0 with
        offset := -indent
        before := bodyEnd f.node
        after := if closes = ")" then "),"  else closes
        instead := if f.node.standsAlone then none else some ',' },
      close]

def labelBefore : Option String → Builder := whenSome fun l => word (l ++ ": ")

/-- A block. As the body of an arm, one that only gives a value is written as that value. -/
def block (label : Option String) (words : String) (inner body : List Form) : Layouts :=
  let whole := all [labelBefore label, word words, firm indent, smallBlock inner body, close]
  if !words.isEmpty then .uniform whole
  else
    let unfolded := all [labelBefore label, bracedLines (contents inner body)]
    { Layouts.uniform whole with
      otherwise := smallBlock inner body
      unfolded := some unfolded
      arm := some <|
        match label, inner, body with
        | none, [], [f] => if givesValue f then armBody f else unfolded
        | _, _, _ => unfolded }

/-- Nothing in parentheses; as the body of an arm, an empty block. -/
def emptyTuple : Layouts :=
  { Layouts.uniform (tuple []) with arm := some (bracedLines nothing) }

def beforeBrace (f : Form) : Builder :=
  all [firm 0, f.plain, if endsLineBeforeBrace f.node then space else blank, close]

def conditional (condition : Form) (body : List Form) (otherwise : Option Form) : Layouts :=
  let head := all [word "if ", firm (-indent), beforeBrace condition, close]
  let rest := whenSome fun f : Form => all [word " else ", f.otherwise]
  let chain := all [head, smallBlock [] body, rest otherwise]
  let unfolded :=
    all [head, word "\x7b", line, statements body, Builder.offset (-indent), word "\x7d"]
  let folds := otherwise.isSome || body.isEmpty
  { Layouts.uniform (all [firm indent, if folds then chain else unfolded, close]) with
    otherwise := chain }

def arm (pattern : Form) (guard : Option Form) (body : Form) : Builder :=
  all [loose 0, pattern.plain, whenSome (fun e => all [word " if ", e.plain]) guard, word " => ",
    armBody body, close]

def selection (operand : Form) (inner arms : List Form) : Builder :=
  all [loose 0, word "match ", beforeBrace operand,
    bracedLines (all [inOrder inner, all (arms.map fun a => all [a.plain, line])]), close]

def loop (label : Option String) (inner body : List Form) : Builder :=
  all [labelBefore label, word "loop \x7b", firm indent, lineIfNonempty, contents inner body,
    Builder.offset (-indent), close, word "\x7d"]

def whileLoop (label : Option String) (condition : Form) (inner body : List Form) : Builder :=
  all [labelBefore label, word "while ", beforeBrace condition, bracedLines (contents inner body)]

def forLoop (label : Option String) (pattern operand : Form) (inner body : List Form) : Builder :=
  all [loose 0, labelBefore label, word "for ", pattern.plain, word " in ", neverBreak,
    beforeBrace operand, bracedLines (contents inner body), close]

/-- Whether the body of a closure is written without brackets around it. -/
def isBareBody : Node → Bool
  | .selection .. => true
  | .call .. => true
  | e => hasBrackets e

/-- The body of a closure, in brackets where it does not fit. -/
def closureBody (f : Form) : Builder :=
  let (opens, closes) := bodyBrackets f.node
  if isBareBody f.node then f.plain
  else
    all [firm indent, gap { Gap.plain 0 with before := some opens }, f.plain,
      gap { Gap.plain 0 with offset := -indent, before := bodyEnd f.node, after := closes },
      close]

def closure (words : String) (inputs : List Form) (output : Option Form) (body : Form) : Builder :=
  let start := all [loose 0, word words, firm indent, word "|", onlyIf (!inputs.isEmpty) seam,
    separated (all [word ",", space]) Form.plain inputs]
  match output with
  | some t =>
    all [start, onlyIf (!inputs.isEmpty) (all [comma true, Builder.offset (-indent)]), word "|",
      close, word " -> ", t.plain, blank, neverBreak, body.plain, close]
  | none =>
    all [start, word "|", space, Builder.offset (-indent), close, neverBreak, closureBody body,
      close]

/-- A binding; where the pattern may not match, a block follows that leaves. -/
def binding (pattern : Form) (initial otherwise : Option Form) : Builder :=
  let start := all [loose 0, word "let ", pattern.plain,
    whenSome (fun e => all [word " = ", neverBreak, e.plain]) initial]
  match otherwise with
  | none => all [start, word ";", close, line]
  | some f =>
    all [start, space, word "else ", close, neverBreak, firm indent, f.otherwise, close, word ";",
      line]

/-- An expression that gives a block its value. -/
def value (f : Form) : Layouts :=
  { Layouts.uniform
      (all [loose 0, f.whole true, onlyIf (takesSemicolon f.node) (word ";"), close, line]) with
    bare := f.whole true
    arm := some (armBody f) }

/-- An expression that is a statement. -/
def effect (f : Form) : Builder :=
  all [loose 0, f.whole true, onlyIf (!dropsSemicolon f.node) (word ";"), close, line]

/-- A call by name that is a statement: a semicolon follows it where one did, or where another
statement follows it; after braces there is none. -/
def invocationStatement (call : Invocation) (ended : Bool) : Layouts :=
  { Layouts.uniform nothing with
    whole := fun last =>
      all [invocation call none, onlyIf (ended || !last) (invocationEnd call), line] }

end EnumForge.Source.Shape
