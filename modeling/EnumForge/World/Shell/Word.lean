namespace EnumForge.Shell

/-- A piece of a word. What stands in quotes is never split, and matches only itself. -/
inductive Fragment
  | plain (char : Char)
  | quoted (chars : List Char)
  | parameter (text : List Char) (isQuoted : Bool)
  | output (script : List Char) (isQuoted : Bool)
  | number (expression : List Char) (isQuoted : Bool)
deriving DecidableEq, Repr

abbrev Word := List Fragment

def isNameChar (c : Char) : Bool := c.isAlphanum || c = '_'

def isName (cs : List Char) : Bool := cs.all isNameChar && cs.head?.any fun c => !c.isDigit

/-- The text up to the bracket that closes the one before it; brackets inside go in pairs, and those
in quotes or after a backslash do not count. -/
def inside (opening closing : Char) : Nat → Option Char → List Char → List Char
  | _, _, [] => []
  | depth, some '\'', c :: cs =>
    c :: inside opening closing depth (if c = '\'' then none else some '\'') cs
  | depth, quote, '\\' :: c :: cs => '\\' :: c :: inside opening closing depth quote cs
  | depth, some q, c :: cs =>
    c :: inside opening closing depth (if c = q then none else some q) cs
  | depth, none, c :: cs =>
    if c = '\'' ∨ c = '"' then c :: inside opening closing depth (some c) cs
    else if c = opening then c :: inside opening closing (depth + 1) none cs
    else if c = closing then
      match depth with
      | 0 => []
      | depth + 1 => c :: inside opening closing depth none cs
    else c :: inside opening closing depth none cs

def bracketed? (opening closing : Char) (cs : List Char) : Option (List Char) :=
  let text := inside opening closing 0 none cs
  if text.length < cs.length then some text else none

/-- The text up to the next back quote; a backslash hides the character after it. -/
def untilBackQuote : List Char → List Char
  | '\\' :: c :: cs => '\\' :: c :: untilBackQuote cs
  | c :: cs => if c = '\x60' then [] else c :: untilBackQuote cs
  | [] => []

/-- Takes away the backslashes before the characters that they can hide. -/
def unescape (hidden : List Char) : List Char → List Char
  | '\\' :: c :: cs => if c ∈ hidden then c :: unescape hidden cs else '\\' :: c :: unescape hidden cs
  | c :: cs => c :: unescape hidden cs
  | [] => []

/-- What a dollar sign or a back quote begins, and how many characters it takes after that. -/
def expansion? (isQuoted : Bool) : List Char → Option (Fragment × Nat)
  | '\x60' :: cs =>
    let text := untilBackQuote cs
    if text.length < cs.length then
      some (.output (unescape ['\x60', '\\', '$'] text) isQuoted, text.length + 1)
    else none
  | '$' :: '\x7b' :: cs =>
    (bracketed? '\x7b' '\x7d' cs).map fun text => (.parameter text isQuoted, text.length + 2)
  | '$' :: '(' :: '(' :: cs =>
    match bracketed? '(' ')' cs with
    | some text =>
      if (cs.drop (text.length + 1)).head? = some ')' then
        some (.number text isQuoted, text.length + 4)
      else
        (bracketed? '(' ')' ('(' :: cs)).map fun text => (.output text isQuoted, text.length + 2)
    | none => none
  | '$' :: '(' :: cs =>
    (bracketed? '(' ')' cs).map fun text => (.output text isQuoted, text.length + 2)
  | '$' :: c :: cs =>
    if c ∈ ['*', '@', '#', '?', '$', '!', '-'] ∨ c.isDigit then some (.parameter [c] isQuoted, 1)
    else
      let name := (c :: cs).takeWhile isNameChar
      if name.isEmpty then none else some (.parameter name isQuoted, name.length)
  | _ => none

/-- Fragments of a text in double quotes; `hidden` are the characters that a backslash hides. -/
def quotedFragments (hidden : List Char) : Nat → List Char → Word
  | _, [] => []
  | skip + 1, _ :: cs => quotedFragments hidden skip cs
  | 0, c :: cs =>
    let plain := fun (_ : Unit) => .quoted [c] :: quotedFragments hidden 0 cs
    if c = '$' ∨ c = '\x60' then
      match expansion? true (c :: cs) with
      | some (fragment, n) => fragment :: quotedFragments hidden n cs
      | none => plain ()
    else if c = '\\' then
      match cs.head? with
      | some '\n' => quotedFragments hidden 1 cs
      | some d => if d ∈ hidden then .quoted [d] :: quotedFragments hidden 1 cs else plain ()
      | none => plain ()
    else plain ()

/-- The text up to the double quote that ends it. -/
def untilQuote : Nat → List Char → List Char
  | _, [] => []
  | skip + 1, c :: cs => c :: untilQuote skip cs
  | 0, c :: cs =>
    if c = '"' then []
    else if c = '\\' then c :: untilQuote 1 cs
    else if c = '$' ∨ c = '\x60' then
      c :: untilQuote (((expansion? true (c :: cs)).map (·.2)).getD 0) cs
    else c :: untilQuote 0 cs

/-- What begins a text that is not in quotes, and how many characters it takes after the first. An
error says that something is not closed. -/
def fragments? : List Char → Except String (Word × Nat)
  | [] => .ok ([], 0)
  | c :: cs =>
    if c = '\'' then
      let text := cs.takeWhile (· ≠ '\'')
      if text.length < cs.length then .ok ([.quoted text], text.length + 1)
      else .error "Unterminated quoted string"
    else if c = '"' then
      let text := untilQuote 0 cs
      if text.length < cs.length then
        .ok (.quoted [] :: quotedFragments ['"', '\\', '$', '\x60'] 0 text, text.length + 1)
      else .error "Unterminated quoted string"
    else if c = '\\' then
      match cs with
      | [] => .ok ([.plain c], 0)
      | '\n' :: _ => .ok ([], 1)
      | d :: _ => .ok ([.quoted [d]], 1)
    else if c = '$' ∨ c = '\x60' then
      match expansion? false (c :: cs) with
      | some (fragment, n) => .ok ([fragment], n)
      | none =>
        if c = '\x60' then .error "EOF in backquote substitution"
        else if cs.head? = some '(' then .error "end of file unexpected (expecting \")\")"
        else if cs.head? = some '\x7b' then .error "Missing '\x7d'"
        else .ok ([.plain c], 0)
    else .ok ([.plain c], 0)

/-- The word that a text is, with quotes read; one that is not closed stands for itself. -/
def wordFrom : Nat → List Char → Word
  | _, [] => []
  | skip + 1, _ :: cs => wordFrom skip cs
  | 0, c :: cs =>
    match fragments? (c :: cs) with
    | .ok (word, n) => word ++ wordFrom n cs
    | .error _ => .plain c :: wordFrom 0 cs

/-- Takes away the quotes that no backslash stands before. -/
def withoutQuotes : List Char → List Char
  | '\\' :: c :: cs => '\\' :: c :: withoutQuotes cs
  | c :: cs => if c = '"' then withoutQuotes cs else c :: withoutQuotes cs
  | [] => []

/-- The word that a text in braces is, where the braces stand in quotes or not. -/
def wordOf (isQuoted : Bool) (text : List Char) : Word :=
  if isQuoted then quotedFragments ['"', '\\', '$', '\x60', '\x7d'] 0 (withoutQuotes text)
  else wordFrom 0 text

def Word.plainText? (w : Word) : Option (List Char) :=
  w.mapM fun f => match f with
    | .plain c => some c
    | _ => none

end EnumForge.Shell
