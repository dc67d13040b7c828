import EnumForge.Source.Grammar.Expression

namespace EnumForge.Source.Grammar

/-- Takes what stands in the bracket after `pub`, where it says who may see an item. -/
def restriction? : List Tree → Option (Option Visibility)
  | [.word w] =>
    if ["crate", "self", "super"].contains w then some (some (.within ⟨false, [w]⟩)) else some none
  | .word "in" :: ts => (name.whole? ts).map fun n => some (.within n)
  | _ => some none

def visibility : Reader Visibility := do
  if !(← acceptWord "pub") then return .inherited
  match ← get with
  | .group .paren ts :: rest =>
    match ← (restriction? ts : Reader (Option Visibility)) with
    | some v => set rest; return v
    | none => return .everyone
  | _ => return .everyone

def dropWord (w : String) (ts : List Tree) : List Tree := if beginsWord w ts then ts.drop 1 else ts

def dropLinkage (ts : List Tree) : List Tree :=
  match ts with
  | .word "extern" :: .literal t :: rest => if isText t then rest else ts.drop 1
  | .word "extern" :: rest => rest
  | ts => ts

/-- Whether trees begin with a function; `safe` says that it may be declared safe. -/
def beginsFunction (safe : Bool) (ts : List Tree) : Bool :=
  let ts := dropWord "async" (dropWord "const" ts)
  let ts := if safe && beginsWord "safe" ts then ts.drop 1 else dropWord "unsafe" ts
  beginsWord "fn" (dropLinkage ts)

section

variable (g : Readers)

def receiver : Reader Node := do
  let reference ← accept "&"
  let l ← if reference then acceptLifetime else pure none
  let mutable ← acceptWord "mut"
  expectWord "self"
  if !reference && (← sees ":") then
    expect ":"
    return .receiver reference l mutable (some (← ty g))
  return .receiver reference l mutable none

def bareInput : Reader Node := do
  if let some r ← attempt (receiver g) then return r
  let ts ← get
  if beginsIdentifier ts && beginsWith ['<'] (ts.drop 1) then return .typed .inferred (← ty g)
  let p ← g .pattern
  expect ":"
  if ← accept "..." then return .variadic (some p)
  return .typed p (← ty g)

/-- Reads the inputs of a function. A receiver comes first, and what stands for any number of inputs
comes last. -/
def inputsFrom (first : Bool) : Nat → Reader (List Node)
  | 0 => failure
  | fuel + 1 => do
    if ← atEnd then return []
    let as ← outerAttributes g
    let i ← if ← accept "..." then pure (.variadic none) else bareInput g
    let final := match i with
      | .variadic _ => true
      | _ => false
    require (first || !(i matches .receiver ..))
    let i := withAttributes as i
    if ← atEnd then return [i]
    expect ","
    if final then
      require (← atEnd)
      return [i]
    return i :: (← inputsFrom false fuel)

/-- Takes what stands before the body of a function, after some words: the function, and whether it
is declared safe. -/
def signature (safe : Bool) (seen : Visibility) (before : String) : Reader (Node × Bool) := do
  let first ← wordBefore "const"
  let second ← wordBefore "async"
  let declared ← if safe then acceptWord "safe" else pure false
  let third ← if declared then pure "" else wordBefore "unsafe"
  let fourth ← linkage
  expectWord "fn"
  let n ← identifier
  let ps ← parameters g
  let ts ← group .paren
  let inputs ← (inputsFrom g true (ts.length + 1)).whole? ts
  let out ← outputOf g true
  let cs ← conditions g
  let words := before ++ first ++ second ++ third ++ fourth
  return (.function seen words n ps inputs out cs, declared)

/-- Takes a function. Without a body it has no written form, unless `bodiless` says that it may lack
one. -/
def function (bodiless : Bool) (seen : Visibility) (before : String) : Reader Node := do
  let (f, _) ← signature g false seen before
  if ← accept ";" then return if bodiless then f else .unwritable
  let (inner, body) ← bodyOf g .statement
  return .withBody f inner body

end

end EnumForge.Source.Grammar
