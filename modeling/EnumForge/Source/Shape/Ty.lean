import EnumForge.Source.Shape.Basic

namespace EnumForge.Source.Shape

open Layout Layout.Builder

/-- Whether a construct is about lifetimes, which come first among arguments and parameters. -/
def isLifetime (n : Node) : Bool :=
  match n.bare with
  | .lifetime _ => true
  | .lifetimeParameter .. => true
  | _ => false

def lifetimesFirst (fs : List Form) : List Form :=
  fs.filter (isLifetime ·.node) ++ fs.filter (!isLifetime ·.node)

def angled (position : Position) (arguments : List Form) : Builder :=
  if arguments.isEmpty then nothing
  else
    all [onlyIf (position = .value) (word "::"),
      listed "<" ">" ((lifetimesFirst arguments).map Form.plain)]

/-- What a type must meet, with a plus sign between each two. -/
def plusSeparated (bounds : List Form) : Builder := separated (word " + ") Form.plain bounds

/-- The same, where a line may end before a plus sign; `first` comes before the first of them. -/
def plusBroken (first : Builder) : List Builder → Builder
  | [] => nothing
  | b :: bs => all [first, b, all (bs.map fun b => all [space, word "+ ", b])]

/-- The names of a path; the first has colons before it where the path starts at the root. -/
def joinedNames (fromRoot : Bool) (names : List Form) : Builder :=
  all [onlyIf fromRoot (word "::"), separated (word "::") Form.plain names]

/-- A path: where it starts from a type, that and the names it is seen as stand in angle brackets.
-/
def path (self : Option Form) (position : Nat) (fromRoot : Bool) (names : List Form) : Builder :=
  match self with
  | none => joinedNames fromRoot names
  | some self =>
    all [word "<", self.plain,
      if position = 0 then word ">"
      else all [word " as ", joinedNames fromRoot (names.take position), word ">"],
      all ((names.drop position).map fun f => all [word "::", f.plain])]

/-- A name of a path that has inputs and an output. -/
def functionSegment (n : String) (inputs : List Form) (output : Option Form) : Builder :=
  all [word n, firm indent, word "(", seam,
    each (fun last f => all [f.plain, comma last]) inputs, Builder.offset (-indent), word ")",
    returned output, close]

def bindingArgument (n : String) (arguments : List Form) (value : Form) : Builder :=
  all [word n, angled .type arguments, word " = ", value.plain]

def constraintArgument (n : String) (arguments bounds : List Form) : Builder :=
  all [word n, angled .type arguments, loose indent, plusBroken (word ": ") (bounds.map Form.plain),
    close]

/-- Parameters that are bound for what follows. -/
def quantifier (parameters : List Form) : Builder :=
  all [word "for<", separated (word ", ") Form.plain parameters, word "> "]

/-- Layouts of a construct with parameters bound for it. -/
def quantified (parameters : List Form) (f : Form) : Layouts :=
  .uniform (all [quantifier parameters, f.plain])

def lifetimeParameter (n : String) (bounds : List String) : Builder :=
  all [word n, onlyIf (!bounds.isEmpty) (word ": "), separated (word " + ") word bounds]

def typeParameter (n : String) (bounds : List Form) (default : Option Form) : Builder :=
  all [word n, loose indent, plusBroken (word ": ") (bounds.map Form.plain),
    whenSome (fun t => all [space, word "= ", t.plain]) default, close]

def valueParameter (n : String) (type : Form) (default : Option Form) : Builder :=
  all [word "const ", word n, word ": ", type.plain,
    whenSome (fun v => all [word " = ", v.plain]) default]

def typeCondition (type : Form) (bounds : List Form) : Builder :=
  all [type.plain, word ":", loose (if bounds.length = 1 then 0 else indent),
    plusBroken blank (bounds.map Form.plain), close]

def lifetimeCondition (n : String) (bounds : List String) : Builder :=
  all [word n, word ":", loose indent, plusBroken blank (bounds.map word), close]

def parameters (ps : List Form) : Builder :=
  if ps.isEmpty then nothing
  else
    all [word "<", firm 0, seam,
      each (fun last p => all [p.plain, comma last]) (lifetimesFirst ps),
      Builder.offset (-indent), close, word ">"]

/-- Conditions on parameters before a body, or before a semicolon. -/
def conditions (semicolon : Bool) (cs : List Form) : Builder :=
  if cs.isEmpty then if semicolon then word ";" else blank
  else
    all [line, Builder.offset (-indent), word "where", line,
      each (fun last c => all [c.plain,
        if last && semicolon then word ";" else all [word ",", line]]) cs,
      onlyIf (!semicolon) (Builder.offset (-indent))]

/-- Conditions on parameters in the line of a type's other name. -/
def conditionsInLine (semicolon : Bool) (cs : List Form) : Builder :=
  if cs.isEmpty then if semicolon then word ";" else blank
  else
    all [space, Builder.offset (-indent), word "where", space,
      each (fun last c => all [c.plain,
        if last && semicolon then word ";" else commaOrSpace last]) cs,
      onlyIf (!semicolon) (Builder.offset (-indent))]

def isVariadic (f : Form) : Bool :=
  match f.node.bare with
  | .variadic _ => true
  | _ => false

/-- Inputs of a function, after each of which a line may end; nothing is written after what stands
for any number of them. -/
def inputs (fs : List Form) : Builder :=
  each (fun last f => all [f.plain, if isVariadic f then seam else comma last]) fs

def functionType (words : String) (fs : List Form) (output : Option Form) : Builder :=
  all [word words, word "fn(", firm indent, seam, inputs fs, Builder.offset (-indent), close,
    word ")", returned output]

/-- A reference to a type, to a pattern or to a value. -/
def reference (l : Option String) (mutable : Bool) (f : Form) : Builder :=
  all [word "&", lifetimeBefore l, onlyIf mutable (word "mut "), f.plain]

end EnumForge.Source.Shape
