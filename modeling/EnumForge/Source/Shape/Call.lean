import EnumForge.Source.Shape.Basic
import EnumForge.Source.Word

namespace EnumForge.Source.Shape

open Layout Layout.Builder

/-- What stands before a tree, as far as the blank between the two depends on it. -/
inductive Before
  | start
  | dollar
  | dollarCrate
  | variable
  | variableColon
  | repeated
  | repeatedMark
  | pound
  | poundBang
  | dot
  | colon
  | colons
  | wordOrLiteral
  | wordBang
  | bracket
  | other
deriving DecidableEq, Repr

def spacedWords : List String :=
  ["as", "async", "await", "box", "break", "const", "continue", "crate", "dyn", "else", "enum",
   "extern", "fn", "for", "if", "impl", "in", "let", "loop", "macro", "match", "mod", "move", "mut",
   "pub", "ref", "return", "static", "struct", "super", "trait", "type", "unsafe", "use", "where",
   "while", "yield"]

/-- Whether a blank stands before a tree, and what the tree is to the one after it. What a rule
takes names variables with the kinds of what they stand for, and has no fields. -/
def spacing (taken : Bool) : Before → Tree → Bool × Before
  | .dollar, .word w =>
    (false, if taken then .variable else if w = "crate" then .dollarCrate else .other)
  | .variable, .mark ':' false => (false, .variableColon)
  | .variableColon, .word _ => (false, .other)
  | .repeated, .mark _ true => (false, .repeated)
  | .repeated, .mark c false =>
    (false, if ['+', '*', '?'].contains c then .other else .repeatedMark)
  | .repeated, .word _ => (false, .repeatedMark)
  | .repeated, .literal _ => (false, .repeatedMark)
  | .repeatedMark, .mark '+' _ => (false, .other)
  | .repeatedMark, .mark '*' _ => (false, .other)
  | .dollar, .group .paren _ => (false, .repeated)
  | .pound, .mark '!' _ => (false, .poundBang)
  | .pound, .group .bracket _ => (false, .other)
  | .poundBang, .group .bracket _ => (false, .other)
  | .wordOrLiteral, .group .paren _ => (false, .bracket)
  | .wordOrLiteral, .group .bracket _ => (false, .bracket)
  | .wordOrLiteral, .mark '!' false => (false, .wordBang)
  | .wordBang, .group .paren _ => (false, .other)
  | .wordBang, .group .bracket _ => (false, .other)
  | .colon, .mark ':' _ => (false, .colons)
  | _, .group .paren _ => (true, .bracket)
  | _, .group .bracket _ => (true, .bracket)
  | _, .group .brace _ => (true, .other)
  | before, .word w =>
    if spacedWords.contains w then (true, .other)
    else (before ≠ .dot && before ≠ .colons, .wordOrLiteral)
  | before, .literal _ => (before ≠ .dot, .wordOrLiteral)
  | _, .mark ',' _ => (false, .other)
  | _, .mark ';' _ => (false, .other)
  | before, .mark '.' _ =>
    if taken then (true, .other) else (before ≠ .wordOrLiteral && before ≠ .bracket, .dot)
  | before, .mark ':' true => (before ≠ .wordOrLiteral && before ≠ .dollarCrate, .colon)
  | _, .mark '$' _ => (true, .dollar)
  | _, .mark '#' _ => (true, .pound)
  | _, _ => (true, .other)

/-- Whether a tree runs into the next one. -/
def runsOn : Tree → Bool
  | .mark c joint => joint || c = '$'
  | _ => false

def gapBefore (joined spaced : Bool) (t : Tree) : Builder :=
  if joined then nothing
  else if spaced then space
  else
    match t with
    | .mark '.' _ => seam
    | _ => nothing

mutual

def tree (taken : Bool) : Tree → Builder
  | .word w => word w
  | .mark c _ => word c.toString
  | .literal t => word t
  | .group d ts =>
    let inner := treesFrom taken true .start ts
    let apart := onlyIf (d = .brace && !ts.isEmpty) space
    all [word d.opening.toString, apart, inner, apart, word d.closing.toString]

/-- Trees after one that runs into them or not. -/
def treesFrom (taken joined : Bool) (before : Before) : List Tree → Builder
  | [] => nothing
  | t :: ts =>
    let (spaced, next) := spacing taken before t
    all [gapBefore joined spaced t, tree taken t, treesFrom taken (runsOn t) next ts]

end

/-- The trees in some brackets, if there are any, between two gaps. -/
def treesWithin (taken : Bool) (gap : Builder) (ts : List Tree) : Builder :=
  onlyIf (!ts.isEmpty) (all [firm indent, gap, loose 0, treesFrom taken true .start ts, close, gap,
    Builder.offset (-indent), close])

def invocation (call : Invocation) (defined : Option String) : Builder :=
  all [name call.name, word "!", whenSome (fun n => all [blank, word n]) defined,
    word ((if call.delimiter = .brace then " " else "") ++ call.delimiter.opening.toString),
    treesWithin false (if call.delimiter = .brace then line else seam) call.trees,
    word call.delimiter.closing.toString]

/-- A call by name as a statement or an item; after braces there is no semicolon. -/
def invocationEnd (call : Invocation) : Builder := onlyIf (call.delimiter ≠ .brace) (word ";")

/-- What stands next in the rules of a macro. -/
inductive RulePart
  | taken
  | equals
  | greater
  | given
  | ended
deriving DecidableEq, Repr

def rulePart : RulePart → Tree → Builder × RulePart
  | .taken, .group d ts =>
    (all [word d.opening.toString, treesWithin true seam ts, word d.closing.toString], .equals)
  | .equals, .mark '=' true => (word " =", .greater)
  | .greater, .mark '>' false => (word ">", .given)
  | .given, .group _ ts =>
    (all [word " \x7b", neverBreak, treesWithin false line ts, word "\x7d"], .ended)
  | .ended, .mark ';' false => (all [word ";", line], .taken)
  | part, _ => (fault, part)

def ruleParts (part : RulePart) : List Tree → Builder
  | [] =>
    match part with
    | .taken => nothing
    | .ended => all [word ";", line]
    | _ => line
  | t :: ts => all [(rulePart part t).1, ruleParts (rulePart part t).2 ts]

def macroRules (n : String) (ts : List Tree) : Builder :=
  all [word "macro_rules! ", word n, word " \x7b", firm indent, lineIfNonempty, ruleParts .taken ts,
    Builder.offset (-indent), close, word "\x7d"]

end EnumForge.Source.Shape
