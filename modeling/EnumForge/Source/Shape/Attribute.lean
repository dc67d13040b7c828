import EnumForge.Source.Literal
import EnumForge.Source.Shape.Basic

namespace EnumForge.Source.Shape

open Layout Layout.Builder

/-- Whether block comments inside a text are all closed, so that it may stand in a block comment. -/
def nestsComments : Nat → List Char → Bool
  | depth, '/' :: '*' :: s => nestsComments (depth + 1) s
  | depth, '*' :: '/' :: s => if depth = 0 then false else nestsComments (depth - 1) s
  | depth, _ :: s => nestsComments depth s
  | depth, [] => depth = 0

def trimSpaces (s : List Char) : List Char := (s.reverse.dropWhile (· = ' ')).reverse

def trimLines (line : List Char) : List Char → List Char
  | [] => line.reverse
  | c :: s =>
    if c = '\n' then (line.dropWhile (· = ' ')).reverse ++ '\n' :: trimLines [] s
    else trimLines (c :: line) s

/-- How a text becomes a comment: the marks of a line comment and of a block comment, and the
characters that the text must not begin with in each. -/
structure CommentStyle where
  line : String
  block : String
  notLine : List Char
  notBlock : List Char

/-- A text as a comment, if it can be one. -/
def comment? (style : CommentStyle) (text : List Char) : Option Builder :=
  let begins := fun (cs : List Char) => text.head?.any (cs.contains ·)
  if !text.contains '\n' && !begins style.notLine then
    some (all [word style.line, word (String.ofList (trimSpaces text)), line])
  else if nestsComments 0 text && !begins style.notBlock && !text.isEmpty then
    some (all [word style.block, word (String.ofList (trimLines [] text)), word "*/", line])
  else none

def docStyle (inner : Bool) : CommentStyle :=
  if inner then ⟨"//!", "/*!", [], []⟩ else ⟨"///", "/**", ['/'], ['*', '/']⟩

def plainStyle : CommentStyle := ⟨"//", "/*", [], ['*', '!']⟩

/-- What stands before a tree in an attribute. -/
inductive AttributeBefore
  | word
  | mark
  | comma
deriving DecidableEq, Repr

mutual

/-- A tree in the brackets of an attribute, with the gap before it. `deep` says that it stands
inside such brackets. -/
def attributeTree (deep : Bool) (before : AttributeBefore) (last : Bool) :
    Tree → AttributeBefore × Builder
  | .word w => (.word, all [onlyIf (before = .word) (if deep then space else blank), word w])
  | .literal t => (.word, all [onlyIf (before = .word) (if deep then space else blank), word t])
  | .mark c _ =>
    if c = ',' && last then (.comma, comma true)
    else (.mark, all [onlyIf (before = .word && c = '=') blank, word c.toString,
      if c = '=' then blank else if c = ',' then (if deep then space else blank) else nothing])
  | .group .paren ts =>
    let (final, inner) := attributeTrees .mark ts
    (.mark, all [word "(", firm indent, seam, inner, onlyIf (final ≠ .comma) seam,
      Builder.offset (-indent), close, word ")"])
  | .group d ts =>
    (.mark, all [word d.opening.toString, (attributeTrees .mark ts).2, word d.closing.toString])

def attributeTrees (before : AttributeBefore) : List Tree → AttributeBefore × Builder
  | [] => (before, nothing)
  | t :: ts =>
    let (next, b) := attributeTree true before ts.isEmpty t
    let (final, rest) := attributeTrees next ts
    (final, all [b, rest])

end

/-- The comment that a value of an attribute stands for, if it does. -/
def commentOf? (inner : Bool) (n : Name) (value : Node) : Option Builder :=
  match n, value with
  | ⟨false, [n]⟩, .literal t =>
    if n = "doc" then (stringValue? t).bind (comment? (docStyle inner))
    else if n = "comment" then (stringValue? t).bind (comment? plainStyle)
    else none
  | _, _ => none

/-- An attribute, given what it says. -/
def attributeOf (inner : Bool) (content : Builder) : Builder :=
  all [word (if inner then "#![" else "#["), content, word "]", space]

def attributeCall (inner : Bool) (call : Invocation) : Builder :=
  attributeOf inner <|
    all [name call.name, (attributeTree false .mark true (.group call.delimiter call.trees)).2]

def attributeValue (inner : Bool) (n : Name) (value : Form) : Builder :=
  (commentOf? inner n value.node).getD (attributeOf inner (all [name n, word " = ", value.plain]))

/-- Layouts of a construct with attributes before it. A block as the body of an arm stands without.
-/
def attributed (attributes : List Form) (f : Form) : Layouts :=
  let before := inOrder attributes
  { whole := fun start => all [before, f.whole start]
    chained := fun _ => all [firm (-indent), before, f.plain, close]
    otherwise := all [before, f.otherwise]
    bare := all [before, f.bare]
    arm := f.unfolded
    unfolded := f.unfolded }

end EnumForge.Source.Shape
