import EnumForge.Source.Shape.Ty

namespace EnumForge.Source.Shape

open Layout Layout.Builder

def capture (byReference mutable : Bool) (n : String) (inside : Option Form) : Builder :=
  all [onlyIf byReference (word "ref "), onlyIf mutable (word "mut "), word n,
    whenSome (fun p => all [word " @ ", p.plain]) inside]

def tuplePattern (items : List Form) (trailing : Bool) : Builder :=
  match items with
  | [p] => aloneInside p.plain trailing
  | ps => listed "(" ")" (ps.map Form.plain)

def recordPattern (path : Form) (fields : List Form) (rest : Option Form) : Builder :=
  all [braced path.plain (fields.map Form.plain) (rest.map Form.plain), close, word "\x7d"]

def fieldPattern (member : Option String) (p : Form) : Builder :=
  all [whenSome (fun m => word (m ++ ": ")) member, p.plain]

/-- Whether alternatives may share lines: they are written out or match anything. -/
def sharesLine (f : Form) : Bool :=
  match f.node with
  | .inferred => true
  | .literal _ => true
  | _ => false

def alternatives (ps : List Form) : Builder :=
  all [if ps.all sharesLine then loose 0 else firm 0,
    separated (all [space, word "| "]) Form.plain ps, close]

/-- Items of a slice, whose lines end as those around them do. -/
def slicePattern (ps : List Form) : Builder :=
  all [word "[", each (fun last p => all [p.plain, comma last]) ps, word "]"]

def typed (p t : Form) : Builder := all [p.plain, word ": ", t.plain]

def range (low : Option Form) (mark : String) (high : Option Form) : Builder :=
  all [whenSome Form.plain low, apart, word mark, whenSome Form.plain high]

end EnumForge.Source.Shape
