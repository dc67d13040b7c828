import EnumForge.Source.Shape.Attribute
import EnumForge.Source.Shape.Expression

namespace EnumForge.Source.Shape

open Layout Layout.Builder

def namesModule : UseTree → Bool
  | .name n => n == "self"
  | .rename n _ => n == "self"
  | _ => false

def endsInGroup : UseTree → Bool
  | .path _ tree => endsInGroup tree
  | .group _ => true
  | _ => false

/-- What a group holds, in braces. -/
def useGroup (inside : Builder) : Builder :=
  all [word "\x7b", firm indent, seam, loose 0, inside, close, comma true,
    Builder.offset (-indent), close, word "\x7d"]

mutual

/-- What a `use` brings into scope. A group of one is written without braces, unless that is the
module that its path leads to. -/
def useTree : UseTree → Builder
  | .name n => word n
  | .rename n newName => word (n ++ " as " ++ newName)
  | .glob => word "*"
  | .path n tree => all [word (n ++ "::"), useTree tree]
  | .group [tree] => if namesModule tree then useGroup (useTree tree) else useTree tree
  | .group trees => useGroup (useTrees trees)

def useTrees : List UseTree → Builder
  | [] => nothing
  | [t] => useTree t
  | t :: ts => all [useTree t, word ",", if endsInGroup t then line else space, useTrees ts]

end

def visibility : Visibility → Builder
  | .inherited => nothing
  | .everyone => word "pub "
  | .within n =>
    let plain := n == ⟨false, ["self"]⟩ || n == ⟨false, ["super"]⟩ || n == ⟨false, ["crate"]⟩
    all [word "pub(", onlyIf (!plain) (word "in "), name n, word ") "]

def imports (seen : Visibility) (fromRoot : Bool) (tree : UseTree) : Builder :=
  all [visibility seen, word "use ", onlyIf fromRoot (word "::"), useTree tree, word ";", line]

def package (seen : Visibility) (n : String) (newName : Option String) : Builder :=
  all [visibility seen, word "extern crate ", word n,
    whenSome (fun r => word (" as " ++ r)) newName, word ";", line]

def otherFile (seen : Visibility) (words n : String) : Builder :=
  all [firm indent, visibility seen, word words, word "mod ", word n, word ";", close, line]

def submodule (seen : Visibility) (words n : String) (inner items : List Form) : Builder :=
  all [firm indent, visibility seen, word words, word "mod ", word n, blank,
    lines (all [inOrder inner, inOrder items]), line]

def fieldItem (seen : Visibility) (n : Option String) (type : Form) : Builder :=
  all [visibility seen, whenSome (fun n => word (n ++ ": ")) n, type.plain]

def tupleFields (fs : List Form) : Builder :=
  all [word "(", seam, each (fun last f => all [f.plain, comma last]) fs,
    Builder.offset (-indent), word ")"]

def recordItem (seen : Visibility) (kind n : String) (ps cs : List Form) (style : FieldStyle)
    (fields : List Form) : Builder :=
  all [firm indent, visibility seen, word (kind ++ " "), word n, parameters ps,
    match style with
    | .named =>
      all [conditions false cs, lines (all (fields.map fun f => all [f.plain, word ",", line]))]
    | .tuple => all [tupleFields fields, conditions true cs, close]
    | .unit => all [conditions true cs, close],
    line]

def enumeration (seen : Visibility) (n : String) (ps cs variants : List Form) : Builder :=
  all [firm indent, visibility seen, word "enum ", word n, parameters ps, conditions false cs,
    lines (all (variants.map fun v => all [v.plain, word ",", line])), line]

def variant (n : String) (style : FieldStyle) (fields : List Form) (value : Option Form) :
    Builder :=
  all [word n,
    match style with
    | .unit => nothing
    | .tuple => all [firm indent, tupleFields fields, close]
    | .named =>
      all [word " \x7b", firm indent, space,
        each (fun last f => all [f.plain, commaOrSpace last]) fields,
        Builder.offset (-indent), close, word "\x7d"],
    whenSome (fun e => all [word " = ", e.plain]) value]

def constant (seen : Visibility) (words n : String) (type : Form) (value : Option Form) : Builder :=
  all [firm 0, visibility seen, word words, word n, word ": ", type.plain,
    whenSome (fun e => all [word " = ", neverBreak, e.plain]) value, word ";", close, line]

/-- The type that another name stands for. -/
def meaning (type : Form) : Builder :=
  all [word "= ", neverBreak, loose (-indent), type.plain, close]

/-- Another name for a type: conditions stand before the type, or after it inside a trait or an
implementation. -/
def synonym (style : AliasStyle) (seen : Visibility) (words n : String) (ps cs bounds : List Form)
    (type : Option Form) : Builder :=
  let start := all [visibility seen, word words, word "type ", word n, parameters ps]
  match style with
  | .item =>
    all [firm indent, start, conditionsInLine false cs, whenSome meaning type, word ";", close,
      line]
  | .associated =>
    all [firm indent, start, plusBroken (word ": ") (bounds.map Form.plain),
      whenSome (fun t => all [blank, meaning t]) type, conditionsInLine true cs, close, line]
  | .foreign => all [firm 0, start, word ";", close, line]

/-- What stands before the body of a function, in a block that is open. -/
def signature (seen : Visibility) (words n : String) (ps is : List Form) (output : Option Form) :
    Builder :=
  all [visibility seen, word words, word "fn ", word n, parameters ps, word "(", neverBreak, firm 0,
    seam, inputs is, Builder.offset (-indent), close, word ")", firm (-indent), returned output,
    close]

/-- A function without a body; what comes before a body is its layout at the end of a line. -/
def function (seen : Visibility) (words n : String) (ps is : List Form) (output : Option Form)
    (cs : List Form) : Layouts :=
  let start := all [firm indent, signature seen words n ps is output]
  { Layouts.uniform (all [start, conditions true cs, close, line]) with
    bare := all [start, conditions false cs] }

def withBody (f : Form) (inner body : List Form) : Builder :=
  all [f.bare, lines (contents inner body), line]

def receiver (isReference : Bool) (l : Option String) (mutable : Bool) (type : Option Form) :
    Builder :=
  all [onlyIf isReference (all [word "&", lifetimeBefore l]), onlyIf mutable (word "mut "),
    word "self", whenSome (fun t => all [word ": ", t.plain]) type]

def variadic (pattern : Option Form) : Builder :=
  all [whenSome (fun p => all [p.plain, word ": "]) pattern, word "..."]

def implementation (words : String) (ps : List Form) (negative : Bool) (trait : Option Form)
    (type : Form) (cs inner items : List Form) : Builder :=
  all [firm indent, loose (-indent), firm indent, word words, word "impl", parameters ps, close,
    blank,
    whenSome (fun p => all [onlyIf negative (word "!"), p.plain, space, word "for "]) trait,
    type.plain, close, conditions false cs, lines (all [inOrder inner, inOrder items]), line]

def trait (seen : Visibility) (words n : String) (ps bounds cs inner items : List Form) : Builder :=
  all [firm indent, visibility seen, word words, word "trait ", word n, parameters ps,
    onlyIf (!bounds.isEmpty) (word ": "), plusSeparated bounds, conditions false cs,
    lines (all [inOrder inner, inOrder items]), line]

def traitAlias (seen : Visibility) (n : String) (ps bounds cs : List Form) : Builder :=
  all [firm indent, visibility seen, word "trait ", word n, parameters ps, word " = ", neverBreak,
    plusBroken nothing (bounds.map Form.plain), conditions true cs, close, line]

def foreign (words : String) (inner items : List Form) : Builder :=
  all [firm indent, word words, lines (all [inOrder inner, inOrder items]), line]

def invocationItem (call : Invocation) (defined : Option String) : Builder :=
  all [invocation call defined, invocationEnd call, line]

def rules (n : String) (ts : List Tree) : Builder := all [macroRules n ts, line]

end EnumForge.Source.Shape
