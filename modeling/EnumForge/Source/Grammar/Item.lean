import EnumForge.Source.Grammar.Function

namespace EnumForge.Source.Grammar

/-- Takes what a `use` brings into scope; none where a tree in a group starts at the root, which
only a group that itself does may hold. -/
def useTree (root : Bool) : Nat → Reader (Option UseTree)
  | 0, _ => none
  | fuel + 1, ts => (do
    if ← accept "*" then return some .glob
    if ← seesGroup .brace then
      let trees ← itemsIn .brace do
        let rooted ← acceptIf root "::"
        let tree ← useTree (root && !rooted) fuel
        return if rooted then none else tree
      return (trees.mapM id).map .group
    let w ← wordSuch fun w => !keywords.contains w || ["self", "super", "crate", "try"].contains w
    if ← accept "::" then
      let tree ← useTree false fuel
      return tree.map (.path w)
    if ← acceptWord "as" then
      return some (.rename w (← wordSuch fun w => !keywords.contains w || w = "_"))
    return some (.name w) : Reader (Option UseTree)) ts

def nameOrUnderscore : Reader String := wordSuch fun w => !keywords.contains w || w = "_"

section

variable (g : Readers)

def imports (seen : Visibility) : Reader Node := do
  let fromRoot ← accept "::"
  let tree ← useTree (!fromRoot) ((← get).length + 1)
  expect ";"
  return (tree.map (Node.imports seen fromRoot)).getD .unwritable

def package (seen : Visibility) : Reader Node := do
  let n ← wordSuch fun w => !keywords.contains w || w = "self"
  let newName ← if ← acceptWord "as" then pure (some (← nameOrUnderscore)) else pure none
  expect ";"
  return .package seen n newName

def bareNamedField : Reader Node := do
  let seen ← visibility
  let n ← nameOrUnderscore
  expect ":"
  let ts ← get
  -- a field without a name may hold a record without one, which has no written form
  if n = "_" &&
      (beginsWord "struct" ts || (beginsWord "union" ts && beginsGroup .brace (ts.drop 1)))
  then
    let _ ← wordSuch fun _ => true
    let _ ← itemsIn .brace (attributedBy g (do
      let _ ← visibility
      let _ ← nameOrUnderscore
      expect ":"
      ty g))
    return .fieldItem seen (some n) .unwritable
  return .fieldItem seen (some n) (← ty g)

def namedFields : Reader (List Node) := itemsIn .brace (attributedBy g (bareNamedField g))

def tupleFields : Reader (List Node) := itemsIn .paren <| attributedBy g do
  let seen ← visibility
  return .fieldItem seen none (← ty g)

def recordItem (seen : Visibility) (word : String) : Reader Node := do
  let n ← identifier
  let ps ← parameters g
  let before ← acceptConditions g
  if before.isNone && (← seesGroup .paren) then
    let fields ← tupleFields g
    let cs ← conditions g
    expect ";"
    return .recordItem seen word n ps cs .tuple fields
  let cs := before.getD []
  if ← accept ";" then return .recordItem seen word n ps cs .unit []
  return .recordItem seen word n ps cs .named (← namedFields g)

/-- Takes a record whose fields share their place, after its word. -/
def unionItem (seen : Visibility) : Reader Node := do
  let n ← identifier
  let ps ← parameters g
  let cs ← conditions g
  return .recordItem seen "union" n ps cs .named (← namedFields g)

def bareVariant : Reader Node := do
  let _ ← visibility
  let n ← identifier
  let (style, fields) ←
    if ← seesGroup .brace then pure (FieldStyle.named, ← namedFields g)
    else if ← seesGroup .paren then pure (FieldStyle.tuple, ← tupleFields g)
    else pure (FieldStyle.unit, [])
  let value ← if ← accept "=" then pure (some (← expression g)) else pure none
  return .variant n style fields value

def enumeration (seen : Visibility) : Reader Node := do
  let n ← identifier
  let ps ← parameters g
  let cs ← conditions g
  return .enumeration seen n ps cs (← itemsIn .brace (attributedBy g (bareVariant g)))

/-- Takes a constant after its word. One with parameters or conditions has no written form, and one
without a value none unless `valueless` says that it may lack one. -/
def constant (valueless : Bool) (seen : Visibility) (before : String) : Reader Node := do
  let n ← nameOrUnderscore
  let generic ← sees "<"
  let _ ← parameters g
  expect ":"
  let t ← ty g
  let value ← if ← accept "=" then pure (some (← expression g)) else pure none
  let cs ← acceptConditions g
  expect ";"
  if generic || cs.isSome || (value.isNone && !valueless) then return .unwritable
  return .constant seen (before ++ "const ") n t value

/-- Takes a constant with a place of its own, after its word. One without a type or a value has no
written form. -/
def static (seen : Visibility) : Reader Node := do
  let mutable ← wordBefore "mut"
  let n ← identifier
  if ← accept "=" then
    let _ ← expression g
    expect ";"
    return .unwritable
  expect ":"
  let t ← ty g
  if ← accept ";" then return .unwritable
  expect "="
  let value ← expression g
  expect ";"
  return .constant seen ("static " ++ mutable) n t (some value)

def endsAlias (ts : List Tree) : Bool :=
  beginsWord "where" ts || beginsWith ['='] ts || beginsWith [';'] ts

/-- Takes bounds with a plus sign between each two, up to what ends them. -/
def boundsUntil (constants : Bool) (ends : List Tree → Bool) : Reader (List Node) := do
  let bs ← summedUntil "+" ends (g (.bound false constants))
  require (ends (← get))
  return bs

/-- Takes another name for a type, after its word: conditions may stand before the type or after it,
as the style says. -/
def aliasOf (style : AliasStyle) (seen : Visibility) (before : String) : Reader Node := do
  let n ← identifier
  let ps ← parameters g
  let bounds ← if ← accept ":" then pure (some (← boundsUntil g true endsAlias)) else pure none
  let first ← if style = .associated then pure none else acceptConditions g
  let t ← if ← accept "=" then pure (some (← ty g)) else pure none
  let second ← if style = .item || first.isSome then pure none else acceptConditions g
  expect ";"
  let node := .synonym style seen before n ps ((first <|> second).getD []) (bounds.getD []) t
  match style with
  | .item => return if bounds.isSome || t.isNone then .unwritable else node
  | .foreign => return if bounds.isSome || t.isSome then .unwritable else node
  | .associated => return node

def submodule (seen : Visibility) (words : String) : Reader Node := do
  expectWord "mod"
  let n ← wordSuch fun w => !keywords.contains w || w = "try"
  if ← accept ";" then return .otherFile seen words n
  let (inner, items) ← bodyOf g .item
  return .submodule seen words n inner items

def foreign : Reader Node := do
  let first ← wordBefore "unsafe"
  require (← seesWord "extern")
  let second ← linkage
  let (inner, items) ← bodyOf g (.member .foreign)
  return .foreign (first ++ second) inner items

/-- Takes a trait after its words, or another name for bounds. -/
def trait (seen : Visibility) (words : String) : Reader Node := do
  expectWord "trait"
  let n ← identifier
  let ps ← parameters g
  if words.isEmpty && (← sees "=") then
    expect "="
    let ends := fun ts => beginsWord "where" ts || beginsWith [';'] ts
    let bs ← boundsUntil g false ends
    let cs ← conditions g
    expect ";"
    return .traitAlias seen n ps bs cs
  let ends := fun ts => beginsWord "where" ts || beginsGroup .brace ts
  let bs ← if ← accept ":" then boundsUntil g true ends else pure []
  let cs ← conditions g
  let (inner, items) ← bodyOf g (.member .trait)
  return .trait seen words n ps bs cs inner items

/-- Takes the words that say that an implementation is constant. -/
def acceptConstantMark : Reader Bool := do
  let ts ← get
  if beginsWord "const" ts then acceptWord "const"
  else if beginsWith ['?'] ts && beginsWord "const" (ts.drop 1) then
    expect "?"
    acceptWord "const"
  else return false

/-- Whether a type may be the trait that an implementation is of. -/
def isTraitPath : Node → Bool
  | .path none .. => true
  | _ => false

/-- Takes an implementation. One that is seen by some, constant, negative without a trait, or of
what is no trait, has no written form. -/
def implementation (seen : Visibility) : Reader Node := do
  let first ← wordBefore "default"
  let second ← wordBefore "unsafe"
  expectWord "impl"
  let ps ← if beginsParameters (← get) then parameters g else pure []
  let constant ← acceptConstantMark
  let negative := (← sees "!") && !beginsGroup .brace ((← get).drop 1)
  if negative then expect "!"
  let t ← ty g
  let self ← if ← acceptWord "for" then pure (some (← ty g)) else pure none
  let cs ← conditions g
  let (inner, items) ← bodyOf g (.member .implementation)
  let node := fun trait type =>
    Node.implementation (first ++ second) ps negative trait type cs inner items
  if seen ≠ .inherited || constant then return .unwritable
  match self with
  | some self => return if isTraitPath t then node (some t) self else .unwritable
  | none => return if negative then .unwritable else node none t

/-- Takes a call by name as an item. Its name may be followed by one that it defines; after
parentheses and square brackets a semicolon follows. -/
def invocationItem : Reader Node := do
  let n ← name
  expect "!"
  let defined ← attempt (wordSuch fun w => !keywords.contains w || w = "try")
  let (d, trees) ← anyGroup
  if d ≠ .brace then expect ";"
  match defined with
  | some m => if n = ⟨false, ["macro_rules"]⟩ then return .rules m trees
  | none => pure ()
  return .invocationItem ⟨n, d, trees⟩ defined

/-- Takes a macro that is declared by its word, which has no written form. -/
def declaredMacro : Reader Node := do
  let _ ← identifier
  if ← seesGroup .paren then let _ ← group .paren
  let _ ← group .brace
  return .unwritable

def externItem (seen : Visibility) : Reader Node := do
  if beginsWord "crate" ((← get).drop 1) then
    expectWord "extern"
    expectWord "crate"
    return ← package seen
  require (seen == .inherited)
  foreign g

/-- Takes an item that begins with `unsafe` and is no function. -/
def unsafeItem (seen : Visibility) : Reader Node := do
  let next := (← get).drop 1
  if beginsWord "trait" next then
    expectWord "unsafe"
    return ← trait g seen "unsafe "
  if beginsWord "auto" next && beginsWord "trait" (next.drop 1) then
    expectWord "unsafe"
    expectWord "auto"
    return ← trait g seen "unsafe auto "
  if beginsWord "impl" next then return ← implementation g seen
  if beginsWord "mod" next then
    expectWord "unsafe"
    return ← submodule g seen "unsafe "
  require (seen == .inherited && beginsWord "extern" next)
  foreign g

def wordItem (seen : Visibility) (w : String) : Reader Node := do
  let next := (← get).drop 1
  match w with
  | "extern" => externItem g seen
  | "use" => expectWord w; imports seen
  | "static" => expectWord w; static g seen
  | "const" => expectWord w; constant g false seen ""
  | "unsafe" => unsafeItem g seen
  | "mod" => submodule g seen ""
  | "type" => expectWord w; aliasOf g .item seen ""
  | "struct" => expectWord w; recordItem g seen w
  | "enum" => expectWord w; enumeration g seen
  | "trait" => trait g seen ""
  | "impl" => implementation g seen
  | "macro" => expectWord w; declaredMacro
  | _ =>
    if w = "union" && beginsIdentifier next then
      expectWord w
      return ← unionItem g seen
    if w = "auto" && beginsWord "trait" next then
      expectWord w
      return ← trait g seen "auto "
    if w = "default" && !beginsWith ['!'] next then return ← implementation g seen
    require (seen == .inherited && w ≠ "Self")
    invocationItem

def bareItem : Reader Node := do
  let seen ← visibility
  if beginsFunction false (← get) then return ← function g false seen ""
  match ← nextWord? with
  | some w => wordItem g seen w
  | none =>
    require (seen == .inherited)
    invocationItem

end

end EnumForge.Source.Grammar
