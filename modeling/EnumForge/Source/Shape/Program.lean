import EnumForge.Source.Shape.Item

namespace EnumForge.Source

open Layout Layout.Builder

namespace Shape

mutual

def layouts : Node → Layouts
  | .attributeName inner n => .uniform (attributeOf inner (name n))
  | .attributeCall inner c => .uniform (attributeCall inner c)
  | .attributeValue inner n v => .uniform (attributeValue inner n ⟨layouts v, v⟩)
  | .attributed as n => attributed (forms as) ⟨layouts n, n⟩
  | .path self position fromRoot segments =>
    .uniform (path (formOf? self) position fromRoot (forms segments))
  | .segment n position as => .uniform (all [word n, angled position (forms as)])
  | .functionSegment n is output => .uniform (functionSegment n (forms is) (formOf? output))
  | .lifetime n => .uniform (word n)
  | .bindingArgument n as v => .uniform (bindingArgument n (forms as) ⟨layouts v, v⟩)
  | .constraintArgument n as bs => .uniform (constraintArgument n (forms as) (forms bs))
  | .quantified ps n => quantified (forms ps) ⟨layouts n, n⟩
  | .relaxed n => .uniform (all [word "?", (layouts n).whole false])
  | .captures ns => .uniform (all [word "use<", separated (word ", ") word ns, word ">"])
  | .lifetimeParameter n bs => .uniform (lifetimeParameter n bs)
  | .typeParameter n bs d => .uniform (typeParameter n (forms bs) (formOf? d))
  | .valueParameter n t d => .uniform (valueParameter n ⟨layouts t, t⟩ (formOf? d))
  | .typeCondition t bs => .uniform (typeCondition ⟨layouts t, t⟩ (forms bs))
  | .lifetimeCondition n bs => .uniform (lifetimeCondition n bs)
  | .inferred => .uniform (word "_")
  | .invocation c => .uniform (invocation c none)
  | .grouped n => .uniform (all [word "(", (layouts n).whole false, word ")"])
  | .tuple [] => emptyTuple
  | .tuple ns => .uniform (tuple ((forms ns).map Form.plain))
  | .reference l mutable n => .uniform (reference l mutable ⟨layouts n, n⟩)
  | .repeated n length => .uniform (repeated ⟨layouts n, n⟩ ⟨layouts length, length⟩)
  | .never => .uniform (word "!")
  | .slice t => .uniform (all [word "[", (layouts t).whole false, word "]"])
  | .pointer mutable t =>
    .uniform (all [word (if mutable then "*mut " else "*const "), (layouts t).whole false])
  | .object bs => .uniform (all [word "dyn ", plusSeparated (forms bs)])
  | .anonymous bs => .uniform (all [word "impl ", plusSeparated (forms bs)])
  | .functionType words is output => .uniform (functionType words (forms is) (formOf? output))
  | .namedInput n t => .uniform (all [word (n ++ ": "), (layouts t).whole false])
  | .variadic p => .uniform (variadic (formOf? p))
  | .rest => .uniform (word "..")
  | .capture byReference mutable n p => .uniform (capture byReference mutable n (formOf? p))
  | .tuplePattern ps trailing => .uniform (tuplePattern (forms ps) trailing)
  | .tupleStruct p ps =>
    .uniform (all [(layouts p).whole false, listed "(" ")" ((forms ps).map Form.plain)])
  | .recordPattern p fs rest => .uniform (recordPattern ⟨layouts p, p⟩ (forms fs) (formOf? rest))
  | .fieldPattern member p => .uniform (fieldPattern member ⟨layouts p, p⟩)
  | .slicePattern ps => .uniform (slicePattern (forms ps))
  | .alternatives ps => .uniform (alternatives (forms ps))
  | .typed p t => .uniform (typed ⟨layouts p, p⟩ ⟨layouts t, t⟩)
  | .literal t => .uniform (word t)
  | .array es => .uniform (array (forms es))
  | .unary op e => .uniform (all [word op, (layouts e).whole false])
  | .binary op l r => .uniform (binary op ⟨layouts l, l⟩ ⟨layouts r, r⟩)
  | .assign l r => .uniform (assign ⟨layouts l, l⟩ ⟨layouts r, r⟩)
  | .cast e t => .uniform (cast ⟨layouts e, e⟩ ⟨layouts t, t⟩)
  | .address w e => .uniform (all [word ("&raw " ++ w ++ " "), (layouts e).whole false])
  | .range low mark high => .uniform (range (formOf? low) mark (formOf? high))
  | .call f es => call ⟨layouts f, f⟩ (forms es)
  | .method e n gs es => method ⟨layouts e, e⟩ n (forms gs) (forms es)
  | .field e member => afterPoint ⟨layouts e, e⟩ member
  | .index e i => index ⟨layouts e, e⟩ ⟨layouts i, i⟩
  | .propagate e => after ⟨layouts e, e⟩ (word "?")
  | .await e => afterPoint ⟨layouts e, e⟩ "await"
  | .block label words inner body => block label words (forms inner) (forms body)
  | .conditional c body otherwise => conditional ⟨layouts c, c⟩ (forms body) (formOf? otherwise)
  | .selection e inner arms => .uniform (selection ⟨layouts e, e⟩ (forms inner) (forms arms))
  | .arm p guard body => .uniform (arm ⟨layouts p, p⟩ (formOf? guard) ⟨layouts body, body⟩)
  | .loop label inner body => .uniform (loop label (forms inner) (forms body))
  | .whileLoop label c inner body =>
    .uniform (whileLoop label ⟨layouts c, c⟩ (forms inner) (forms body))
  | .forLoop label p e inner body =>
    .uniform (forLoop label ⟨layouts p, p⟩ ⟨layouts e, e⟩ (forms inner) (forms body))
  | .closure words is output body =>
    .uniform (closure words (forms is) (formOf? output) ⟨layouts body, body⟩)
  | .record p fs rest => .uniform (record ⟨layouts p, p⟩ (forms fs) (formOf? rest))
  | .fieldValue member v => .uniform (fieldValue member (formOf? v))
  | .jump w label v => .uniform (jump w label (formOf? v))
  | .matches p e => .uniform (matching ⟨layouts p, p⟩ ⟨layouts e, e⟩)
  | .binding p initial otherwise =>
    .uniform (binding ⟨layouts p, p⟩ (formOf? initial) (formOf? otherwise))
  | .value e => value ⟨layouts e, e⟩
  | .effect e => .uniform (effect ⟨layouts e, e⟩)
  | .invocationStatement c ended => invocationStatement c ended
  | .empty => .uniform nothing
  | .imports seen fromRoot tree => .uniform (imports seen fromRoot tree)
  | .package seen n newName => .uniform (package seen n newName)
  | .otherFile seen words n => .uniform (otherFile seen words n)
  | .submodule seen words n inner items =>
    .uniform (submodule seen words n (forms inner) (forms items))
  | .recordItem seen kind n ps cs style fs =>
    .uniform (recordItem seen kind n (forms ps) (forms cs) style (forms fs))
  | .fieldItem seen n t => .uniform (fieldItem seen n ⟨layouts t, t⟩)
  | .enumeration seen n ps cs vs => .uniform (enumeration seen n (forms ps) (forms cs) (forms vs))
  | .variant n style fs v => .uniform (variant n style (forms fs) (formOf? v))
  | .constant seen words n t v => .uniform (constant seen words n ⟨layouts t, t⟩ (formOf? v))
  | .synonym style seen words n ps cs bs t =>
    .uniform (synonym style seen words n (forms ps) (forms cs) (forms bs) (formOf? t))
  | .function seen words n ps is output cs =>
    function seen words n (forms ps) (forms is) (formOf? output) (forms cs)
  | .withBody f inner body => .uniform (withBody ⟨layouts f, f⟩ (forms inner) (forms body))
  | .receiver isReference l mutable t => .uniform (receiver isReference l mutable (formOf? t))
  | .implementation words ps negative trait t cs inner items =>
    .uniform (implementation words (forms ps) negative (formOf? trait) ⟨layouts t, t⟩ (forms cs)
      (forms inner) (forms items))
  | .trait seen words n ps bs cs inner items =>
    .uniform (trait seen words n (forms ps) (forms bs) (forms cs) (forms inner) (forms items))
  | .traitAlias seen n ps bs cs =>
    .uniform (traitAlias seen n (forms ps) (forms bs) (forms cs))
  | .foreign words inner items => .uniform (foreign words (forms inner) (forms items))
  | .invocationItem c defined => .uniform (invocationItem c defined)
  | .rules n ts => .uniform (rules n ts)
  | .unwritable => .uniform fault

def forms : List Node → List Form
  | [] => []
  | n :: ns => ⟨layouts n, n⟩ :: forms ns

/-- A construct that may be missing, with its layouts. -/
def formOf? : Option Node → Option Form
  | none => none
  | some n => some ⟨layouts n, n⟩

end

end Shape

open Shape

def Program.layout (p : Program) : Builder :=
  all [firm 0, whenSome (fun s => all [word s, line]) p.shebang, inOrder (forms p.attributes),
    inOrder (forms p.items), close]

/-- The text of a program; none when a part of it has no written form. -/
def Program.text? (p : Program) : Option String := p.layout.render?

end EnumForge.Source
