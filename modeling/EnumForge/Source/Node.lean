import EnumForge.Source.Token

namespace EnumForge.Source

/-- A path of names without arguments. -/
structure Name where
  fromRoot : Bool
  words : List String
deriving DecidableEq, Repr

/-- A call by name on the trees in its brackets. -/
structure Invocation where
  name : Name
  delimiter : Delimiter
  trees : List Tree
deriving Repr

/-- Who may see an item. -/
inductive Visibility
  | inherited
  | everyone
  | within (name : Name)
deriving DecidableEq, Repr

/-- What a `use` brings into scope. -/
inductive UseTree
  | name (name : String)
  | rename (name newName : String)
  | glob
  | path (name : String) (tree : UseTree)
  | group (trees : List UseTree)
deriving Repr

/-- Where a path stands: arguments of its names follow at once in types, and after `::` in
expressions and patterns. -/
inductive Position
  | type
  | value
deriving DecidableEq, Repr

/-- How the fields of a record or of a case are given: not at all, by place, or by name. -/
inductive FieldStyle
  | unit
  | tuple
  | named
deriving DecidableEq, Repr

/-- What is called another name: a type of its own, a type inside a trait or an implementation, or a
type that is declared elsewhere. -/
inductive AliasStyle
  | item
  | associated
  | foreign
deriving DecidableEq, Repr

/-- A construct of a program. A field named `inner` holds the attributes that stand inside the
brackets of a construct; attributes before a construct are around it. -/
inductive Node
  -- Attributes
  | attributeName (inner : Bool) (name : Name)
  | attributeCall (inner : Bool) (call : Invocation)
  | attributeValue (inner : Bool) (name : Name) (value : Node)
  | attributed (attributes : List Node) (of : Node)
  -- Paths: `self` is the type that a path starts from, seen as what its first segments name
  | path (self : Option Node) (position : Nat) (fromRoot : Bool) (segments : List Node)
  | segment (name : String) (position : Position) (arguments : List Node)
  | functionSegment (name : String) (inputs : List Node) (output : Option Node)
  | lifetime (name : String)
  | bindingArgument (name : String) (arguments : List Node) (value : Node)
  | constraintArgument (name : String) (arguments bounds : List Node)
  -- What types must meet
  | quantified (parameters : List Node) (of : Node)
  | relaxed (bound : Node)
  | captures (names : List String)
  | lifetimeParameter (name : String) (bounds : List String)
  | typeParameter (name : String) (bounds : List Node) (default : Option Node)
  | valueParameter (name : String) (type : Node) (default : Option Node)
  | typeCondition (type : Node) (bounds : List Node)
  | lifetimeCondition (name : String) (bounds : List String)
  -- Constructs that types, patterns and expressions share
  | inferred
  | invocation (call : Invocation)
  | grouped (inside : Node)
  | tuple (items : List Node)
  | reference (lifetime : Option String) (mutable : Bool) (target : Node)
  | repeated (item length : Node)
  -- Types
  | never
  | slice (type : Node)
  | pointer (mutable : Bool) (type : Node)
  | object (bounds : List Node)
  | anonymous (bounds : List Node)
  | functionType (words : String) (inputs : List Node) (output : Option Node)
  | namedInput (name : String) (type : Node)
  | variadic (pattern : Option Node)
  -- Patterns
  | rest
  | capture (byReference mutable : Bool) (name : String) (inside : Option Node)
  | tuplePattern (items : List Node) (trailing : Bool)
  | tupleStruct (path : Node) (items : List Node)
  | recordPattern (path : Node) (fields : List Node) (rest : Option Node)
  | fieldPattern (member : Option String) (pattern : Node)
  | slicePattern (items : List Node)
  | alternatives (items : List Node)
  | typed (pattern type : Node)
  -- Expressions
  | literal (text : String)
  | array (items : List Node)
  | unary (op : String) (operand : Node)
  | binary (op : String) (left right : Node)
  | assign (left right : Node)
  | cast (operand type : Node)
  | address (word : String) (operand : Node)
  | range (low : Option Node) (mark : String) (high : Option Node)
  | call (function : Node) (arguments : List Node)
  | method (receiver : Node) (name : String) (generics arguments : List Node)
  | field (operand : Node) (member : String)
  | index (operand position : Node)
  | propagate (operand : Node)
  | await (operand : Node)
  | block (label : Option String) (words : String) (inner body : List Node)
  | conditional (condition : Node) (body : List Node) (otherwise : Option Node)
  | selection (operand : Node) (inner arms : List Node)
  | arm (pattern : Node) (guard : Option Node) (body : Node)
  | loop (label : Option String) (inner body : List Node)
  | whileLoop (label : Option String) (condition : Node) (inner body : List Node)
  | forLoop (label : Option String) (pattern operand : Node) (inner body : List Node)
  | closure (words : String) (inputs : List Node) (output : Option Node) (body : Node)
  | record (path : Node) (fields : List Node) (rest : Option Node)
  | fieldValue (member : String) (value : Option Node)
  | jump (word : String) (label : Option String) (value : Option Node)
  | matches (pattern operand : Node)
  -- Statements
  | binding (pattern : Node) (initial otherwise : Option Node)
  | value (expression : Node)
  | effect (expression : Node)
  | invocationStatement (call : Invocation) (ended : Bool)
  | empty
  -- Items
  | imports (seen : Visibility) (fromRoot : Bool) (tree : UseTree)
  | package (seen : Visibility) (name : String) (newName : Option String)
  | otherFile (seen : Visibility) (words name : String)
  | submodule (seen : Visibility) (words name : String) (inner items : List Node)
  | recordItem (seen : Visibility) (word name : String) (parameters conditions : List Node)
      (style : FieldStyle) (fields : List Node)
  | fieldItem (seen : Visibility) (name : Option String) (type : Node)
  | enumeration (seen : Visibility) (name : String) (parameters conditions variants : List Node)
  | variant (name : String) (style : FieldStyle) (fields : List Node) (value : Option Node)
  | constant (seen : Visibility) (words name : String) (type : Node) (value : Option Node)
  | synonym (style : AliasStyle) (seen : Visibility) (words name : String)
      (parameters conditions bounds : List Node) (type : Option Node)
  | function (seen : Visibility) (words name : String) (parameters inputs : List Node)
      (output : Option Node) (conditions : List Node)
  | withBody (function : Node) (inner body : List Node)
  | receiver (reference : Bool) (lifetime : Option String) (mutable : Bool) (type : Option Node)
  | implementation (words : String) (parameters : List Node) (negative : Bool)
      (trait : Option Node) (type : Node) (conditions inner items : List Node)
  | trait (seen : Visibility) (words name : String)
      (parameters bounds conditions inner items : List Node)
  | traitAlias (seen : Visibility) (name : String) (parameters bounds conditions : List Node)
  | foreign (words : String) (inner items : List Node)
  | invocationItem (call : Invocation) (defined : Option String)
  | rules (name : String) (trees : List Tree)
  -- Constructs that are read, but have no written form here
  | unwritable

def Node.bare : Node → Node
  | .attributed _ n => n
  | n => n

/-- Whether an expression ends with its block, so that it is a statement by itself. -/
def Node.standsAlone (n : Node) : Bool :=
  match n.bare with
  | .conditional .. => true
  | .selection .. => true
  | .block _ words _ _ => !words.startsWith "async "
  | .loop .. => true
  | .whileLoop .. => true
  | .forLoop .. => true
  | _ => false

/-- A program: the line that names its interpreter, if it has one, its own attributes, and its
items. -/
structure Program where
  shebang : Option String
  attributes : List Node
  items : List Node

end EnumForge.Source
