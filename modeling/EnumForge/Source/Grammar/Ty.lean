import EnumForge.Source.Grammar.Generics

namespace EnumForge.Source.Grammar

section

variable (g : Readers)

/-- Where a sum of bounds without a word before it may go on. -/
def beginsSummand (ts : List Tree) : Bool :=
  (match ts with
  | .word _ :: _ => true
  | _ => false) ||
    beginsWith [':', ':'] ts || beginsWith ['?'] ts || beginsLifetime ts || beginsGroup .paren ts

/-- Takes bounds, with a plus sign between each two where they may be summed; `begins` says what may
follow a plus sign. -/
def sumFrom (begins : List Tree → Bool) (p : Reader Node) (sums : Bool) : Nat → Reader (List Node)
  | 0 => failure
  | fuel + 1 => do
    let b ← p
    let more ← acceptIf sums "+"
    if more && begins (← get) then return b :: (← sumFrom begins p sums fuel) else return [b]

/-- Takes the bounds of a type that is known by them: one of them must be more than a lifetime. -/
def boundsOfType (capturing sums : Bool) : Reader (List Node) := do
  let begins := fun ts => beginsSummand ts || beginsGroup .bracket ts
  let bs ← sumFrom begins (g (.bound capturing true)) sums ((← get).length + 1)
  require (bs.any fun
    | .lifetime _ => false
    | .captures _ => false
    | _ => true)
  return bs

/-- Takes bounds after the first, each with a plus sign before it. -/
def moreBoundsFrom : Nat → Reader (List Node)
  | 0 => failure
  | fuel + 1 => do
    if !(← accept "+") then return []
    let b ← g (.bound false false)
    return b :: (← moreBoundsFrom fuel)

def moreBounds : Reader (List Node) := do moreBoundsFrom g ((← get).length + 1)

/-- Takes a type that begins with a path: a call by name, a sum of bounds, or the path alone. -/
def pathType (lifetimes : Option (List Node)) (sums : Bool) : Reader Node := do
  let p ← typePath g
  match p with
  | .path none .. =>
    if let some call ← acceptInvocation p then return .invocation call
    let first := match lifetimes with
      | some parameters => .quantified parameters p
      | none => p
    if ← acceptIf sums "+" then
      if beginsSummand (← get) then
        return .object
          (first :: (← sumFrom beginsSummand (g (.bound false false)) true ((← get).length + 1)))
      return .object [first]
    return if lifetimes.isSome then .object [first] else p
  | p => return p

/-- A type in parentheses as the first bound of a sum. -/
def asBound? : Node → Option Node
  | .path none position fromRoot segments => some (.grouped (.path none position fromRoot segments))
  | .object [.lifetime l] => some (.lifetime l)
  | .object [.grouped b] => some (.grouped b)
  | .object [b] => some (.grouped b)
  | _ => none

/-- Whether a sum of bounds is one that a word announces. -/
def isAnnounced (ts : List Tree) : Bool := beginsWord "dyn" ts

/-- Takes a type in parentheses, several types, or none. -/
def parenthesizedType (sums : Bool) (ts : List Tree) : Reader Node := do
  if ts.isEmpty then return .tuple []
  if beginsLifetime ts then return .grouped (.object (← (boundsOfType g false true).whole? ts))
  if beginsWith ['?'] ts then
    let first ← (pathBound g false).whole? ts
    return .object (.grouped first :: (← moreBounds g))
  match ← items? (ty g) ts with
  | ([t], false) =>
    if sums && (← sees "+") && !isAnnounced ts then
      if let some b := asBound? t then return .object (b :: (← moreBounds g))
    return .grouped t
  | (types, _) => return .tuple types

def linkage : Reader String := do
  if !(← acceptWord "extern") then return ""
  match ← get with
  | .literal t :: ts =>
    if isText t then
      set ts
      return "extern " ++ t ++ " "
    else return "extern "
  | _ => return "extern "

/-- Takes a word if it stands next, and gives it with a blank after it. -/
def wordBefore (w : String) : Reader String := do
  if ← acceptWord w then return w ++ " " else return ""

/-- Takes the receiver that a function type may name first, which has no written form if it may
change. -/
def changingReceiver : Reader Node := do
  expectWord "mut"
  expectWord "self"
  if ← sees ":" then
    expect ":"
    let _ ← ty g
  return .unwritable

def beginsNamed (first : Bool) (ts : List Tree) : Bool :=
  (beginsIdentifier ts || beginsWord "_" ts || (first && beginsWord "self" ts)) &&
    beginsWith [':'] (ts.drop 1)

def functionInput (first : Bool) : Reader Node := do
  let ts ← get
  if first && beginsWord "mut" ts && beginsWord "self" (ts.drop 1) then
    return ← changingReceiver g
  if beginsNamed first ts && !beginsWith [':', ':'] (ts.drop 1) then
    let n ← wordSuch fun _ => true
    expect ":"
    return .namedInput n (← ty g)
  ty g

/-- Takes what stands for any number of inputs. -/
def variadicInput : Reader Node := do
  if ← accept "..." then return .variadic none
  let n ← wordSuch fun _ => true
  expect ":"
  expect "..."
  return .variadic (some (.capture false false n none))

def beginsVariadic (ts : List Tree) : Bool :=
  beginsWith ['.', '.', '.'] ts ||
    ((beginsIdentifier ts || beginsWord "_" ts) && beginsWith [':'] (ts.drop 1) &&
      beginsWith ['.', '.', '.'] (ts.drop 2))

def functionInputsFrom (first : Bool) : Nat → Reader (List Node)
  | 0 => failure
  | fuel + 1 => do
    if ← atEnd then return []
    let as ← outerAttributes g
    if beginsVariadic (← get) then
      let v ← variadicInput
      let _ ← accept ","
      return [withAttributes as v]
    let i ← functionInput g first
    let i := withAttributes as i
    if ← atEnd then return [i]
    expect ","
    return i :: (← functionInputsFrom false fuel)

def functionType : Reader Node := do
  let first ← wordBefore "unsafe"
  let second ← linkage
  expectWord "fn"
  let ts ← group .paren
  let inputs ← (functionInputsFrom g true (ts.length + 1)).whole? ts
  return .functionType (first ++ second) inputs (← outputOf g false)

/-- What the brackets of an array or of a slice hold. -/
def bracketedType : Reader Node := do
  let t ← ty g
  if ← accept ";" then return .repeated t (← expression g)
  return .slice t

def wordType (sums : Bool) (w : String) : Reader Node := do
  match w with
  | "_" => expectWord w; return .inferred
  | "fn" => functionType g
  | "unsafe" => functionType g
  | "extern" => functionType g
  | "impl" => expectWord w; return .anonymous (← boundsOfType g true sums)
  | "dyn" =>
    expectWord w
    let star ← accept "*"
    let bs ← boundsOfType g false sums
    return if star then .unwritable else .object bs
  | "for" =>
    let parameters ← boundParameters g
    let ts ← get
    if beginsWordOf ["fn", "unsafe", "extern"] ts then
      return .quantified parameters (← functionType g)
    require (beginsIdentifier ts || beginsWordOf pathWords ts)
    pathType g (some parameters) sums
  | "try" => failure
  | _ => pathType g none sums

def tyStep (sums : Bool) : Reader Node := do
  match ← get with
  | .group .paren ts :: rest => set rest; parenthesizedType g sums ts
  | .group .bracket ts :: rest =>
    let t ← (bracketedType g).whole? ts
    set rest
    return t
  | .group .brace _ :: _ => failure
  | .mark '!' _ :: rest => set rest; return .never
  | .mark '&' _ :: rest =>
    set rest
    let l ← acceptLifetime
    let mutable ← acceptWord "mut"
    return .reference l mutable (← g (.type false))
  | .mark '*' _ :: .word "const" :: rest => set rest; return .pointer false (← g (.type false))
  | .mark '*' _ :: .word "mut" :: rest => set rest; return .pointer true (← g (.type false))
  | .mark '\'' _ :: _ => return .object (← boundsOfType g false true)
  | .word w :: _ => wordType g sums w
  | _ => pathType g none sums

end

end EnumForge.Source.Grammar
