import EnumForge.Layout.Lines
import EnumForge.Source.Node

namespace EnumForge.Source.Shape

open Layout Layout.Builder

/-- Layouts of a construct: by itself, where an expression may begin its line, and a statement may
be the last of its block; before a point that follows it; after `else`; without what ends it as a
statement; and, where these are its own, as the body of an arm and as a block that is not folded
into one line. -/
structure Layouts where
  whole : Bool → Builder
  chained : Bool → Builder
  otherwise : Builder
  bare : Builder
  arm : Option Builder
  unfolded : Option Builder

/-- Layouts of a construct that is laid out alike wherever it stands. -/
def Layouts.uniform (b : Builder) : Layouts where
  whole := fun _ => b
  chained := fun _ => all [firm (-indent), b, close]
  otherwise := b
  bare := b
  arm := none
  unfolded := none

/-- Layouts of an expression that goes on from another. -/
def Layouts.ofChain (whole chained : Bool → Builder) : Layouts where
  whole := whole
  chained := chained
  otherwise := whole true
  bare := whole true
  arm := none
  unfolded := none

structure Form extends Layouts where
  node : Node

/-- The layout of a construct that does not begin its line. -/
def Form.plain (f : Form) : Builder := f.whole false

def inOrder (fs : List Form) : Builder := all (fs.map Form.plain)

/-- Items inside brackets that are written already, all in one line or each in its own with a comma
after it. -/
def inside (items : List Builder) : Builder :=
  all [firm indent, seam, each (fun last b => all [b, comma last]) items, Builder.offset (-indent),
    close]

def listed (open_ close_ : String) (items : List Builder) : Builder :=
  all [word open_, inside items, word close_]

/-- A lone item in parentheses, where a comma after it may matter. -/
def aloneInside (b : Builder) (commaAfter : Bool) : Builder :=
  all [word "(", firm indent, seam, b, onlyIf commaAfter (word ","), seam, Builder.offset (-indent),
    close, word ")"]

def tuple (items : List Builder) : Builder :=
  match items with
  | [b] => aloneInside b true
  | _ => listed "(" ")" items

/-- Fields in braces, all in one line or each in its own; `more` stands after them, where there are
others. The block is left open. -/
def braced (head : Builder) (fields : List Builder) (more : Option Builder) : Builder :=
  all [firm indent, head, word " \x7b", spaceIfNonempty,
    each (fun last b => all [b, commaOrSpace (last && more.isNone)]) fields,
    whenSome (fun b => all [b, space]) more, Builder.offset (-indent)]

/-- Lines in braces, of which the first is in a block that is open. -/
def lines (items : Builder) : Builder :=
  all [word "\x7b", lineIfNonempty, items, Builder.offset (-indent), close, word "\x7d"]

def name (n : Name) : Builder :=
  all [onlyIf n.fromRoot (word "::"), separated (word "::") word n.words]

def lifetimeBefore : Option String → Builder := whenSome fun l => all [word l, blank]

/-- The arrow and the type after it, where there is one. -/
def returned : Option Form → Builder := whenSome fun t => all [word " -> ", t.plain]

end EnumForge.Source.Shape
