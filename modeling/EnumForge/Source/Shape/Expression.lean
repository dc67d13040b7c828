import EnumForge.Source.Shape.Block

namespace EnumForge.Source.Shape

open Layout Layout.Builder

def array (es : List Form) : Builder :=
  if es.isEmpty then word "[]"
  else if shareLines (es.map (·.node)) then
    all [firm indent, word "[", seam, loose 0,
      separated (all [word ",", space]) Form.plain es, close, comma true,
      Builder.offset (-indent), word "]", close]
  else listed "[" "]" (es.map Form.plain)

def repeated (item length : Form) : Builder :=
  all [word "[", item.plain, word "; ", length.plain, word "]"]

/-- What stands on the left of an operator, and the operator in a line of its own where it does not
fit. -/
def leftOf (f : Form) (right : Builder) : Builder :=
  all [loose indent, loose (-indent), f.plain, close, space, right, close]

def binary (op : String) (l r : Form) : Builder := leftOf l (all [word op, blank, r.plain])

def cast (e t : Form) : Builder := leftOf e (all [word "as ", t.plain])

def assign (l r : Form) : Builder :=
  all [loose 0, l.plain, word " = ", neverBreak, r.plain, close]

def matching (p e : Form) : Builder :=
  all [loose 0, word "let ", p.plain, word " = ", neverBreak, e.plain, close]

/-- Arguments of a call; a lone one with brackets of its own is written as it is. -/
def arguments (es : List Form) : Builder :=
  match es with
  | [e] => if hasBrackets e.node then e.plain else inside [e.plain]
  | _ => inside (es.map Form.plain)

def call (f : Form) (es : List Form) : Layouts :=
  let rest := all [word "(", arguments es, word ")"]
  .ofChain (fun start => all [f.whole start, rest]) (fun _ => all [f.chained false, rest])

/-- The gap before a point that follows an operand. -/
def pointSeam (start : Bool) (f : Form) : Builder :=
  if start && isShortName f.node then nothing else all [apart, seam]

def method (f : Form) (n : String) (generics es : List Form) : Layouts :=
  let chained := fun (start unindented : Bool) =>
    all [f.chained start, pointSeam start f, word ".", word n, angled .value generics,
      firm (if unindented then -indent else 0), word "(", arguments es, word ")", close]
  .ofChain
    (fun start => all [firm indent, chained start (start && isShortName f.node), close])
    (fun start => chained start false)

def afterPoint (f : Form) (text : String) : Layouts :=
  let chained := fun start => all [f.chained start, pointSeam start f, word ("." ++ text)]
  .ofChain (fun start => all [firm indent, chained start, close]) chained

/-- What follows an operand directly. -/
def after (f : Form) (b : Builder) : Layouts :=
  .ofChain (fun start => all [f.whole start, b]) (fun start => all [f.chained start, b])

def index (f i : Form) : Layouts := after f (all [word "[", i.plain, word "]"])

def record (path : Form) (fields : List Form) (rest : Option Form) : Builder :=
  all [braced (all [loose (-indent), path.plain, close]) (fields.map Form.plain)
      (rest.map fun e => all [word "..", e.plain]),
    closeWithin 34, word "\x7d"]

def fieldValue (member : String) (value : Option Form) : Builder :=
  all [word member, whenSome (fun e => all [word ": ", loose 0, e.plain, close]) value]

def jump (w : String) (label : Option String) (value : Option Form) : Builder :=
  all [word w, whenSome (fun l => word (" " ++ l)) label,
    whenSome (fun e => all [blank, e.plain]) value]

end EnumForge.Source.Shape
