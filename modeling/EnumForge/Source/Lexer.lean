import EnumForge.Source.Token
import EnumForge.Source.Literal
import EnumForge.Unicode.WhiteSpace

namespace EnumForge.Source

open EnumForge.Unicode

/-- A blank between tokens; the marks that set the direction of writing count as blanks. -/
def isSpace (c : Char) : Bool := isWhiteSpace c || c == '\u200e' || c == '\u200f'

/-- The body of a block comment after its opening, up to its matching end, and what follows. -/
def blockComment (depth : Nat) : List Char → Option (List Char × List Char)
  | [] => none
  | [_] => none
  | '/' :: '*' :: r => do
    let (body, rest) ← blockComment (depth + 1) r
    some ('/' :: '*' :: body, rest)
  | '*' :: '/' :: r =>
    if depth = 0 then some ([], r)
    else do
      let (body, rest) ← blockComment (depth - 1) r
      some ('*' :: '/' :: body, rest)
  | c :: r => do
    let (body, rest) ← blockComment depth r
    some (c :: body, rest)

def splitLine : List Char → List Char × List Char
  | [] => ([], [])
  | '\n' :: r => ([], '\n' :: r)
  | '\r' :: '\n' :: r => ([], '\n' :: r)
  | c :: r =>
    let (line, rest) := splitLine r
    (c :: line, rest)

/-- A documentation comment: whether it documents what contains it, its text, and what follows. -/
def docComment? : List Char → Option (Bool × List Char × List Char)
  | '/' :: '/' :: '!' :: r => some (true, splitLine r)
  | '/' :: '*' :: '!' :: r => (blockComment 0 ('!' :: r)).map fun p => (true, p.1.drop 1, p.2)
  | '/' :: '/' :: '/' :: r =>
    if r.head? = some '/' then none else some (false, splitLine r)
  | '/' :: '*' :: '*' :: r =>
    if r.head? = some '*' then none
    else (blockComment 0 ('*' :: r)).map fun p => (false, p.1.drop 1, p.2)
  | _ => none

/-- A comment that leaves no trace: what follows it. -/
def plainComment? (s : List Char) : Option (List Char) :=
  match s with
  | '/' :: '*' :: '*' :: '/' :: r => some r
  | '/' :: '/' :: r => if (docComment? s).isSome then none else some (splitLine r).2
  | '/' :: '*' :: r =>
    match r with
    | '!' :: _ => none
    | '*' :: '*' :: _ => (blockComment 0 r).map (·.2)
    | '*' :: _ => none
    | _ => (blockComment 0 r).map (·.2)
  | _ => none

def marks : List Char :=
  ['~', '!', '@', '#', '$', '%', '^', '&', '*', '-', '=', '+', '|', ';', ':', ',', '<', '.', '>',
   '/', '?', '\'']

/-- Whether the text begins with a mark; one that opens a comment is none. -/
def startsMark : List Char → Bool
  | '/' :: '/' :: _ => false
  | '/' :: '*' :: _ => false
  | c :: _ => marks.contains c
  | [] => false

/-- A word, raw or not, and what follows it. -/
def identifier? (s : List Char) : Option (String × List Char) :=
  match s with
  | 'r' :: '#' :: r => do
    let (word, rest) ← takeWord? r
    if neverRaw.contains (String.ofList word) then none
    else some (String.ofList ('r' :: '#' :: word), rest)
  | _ => (takeWord? s).map fun p => (String.ofList p.1, p.2)

/-- Beginnings of literals, which are no words even when the literal is broken. -/
def literalPrefixes : List (List Char) :=
  [['r', '"'], ['r', '#', '"'], ['r', '#', '#'], ['b', '"'], ['b', '\''], ['b', 'r', '"'],
   ['b', 'r', '#'], ['c', '"'], ['c', 'r', '"'], ['c', 'r', '#']]

/-- An apostrophe that begins a lifetime: a word follows, and no second apostrophe. -/
def startsLifetime (s : List Char) : Bool :=
  match identifier? s with
  | none => false
  | some (_, '\'' :: _) => false
  | some (_, '#' :: _) => ['r', '#'].isPrefixOf s
  | some _ => true

/-- The token at the head of the text, and what follows. -/
def leaf? (s : List Char) : Option (Token × List Char) :=
  match literalLength s with
  | some n => some (.literal (String.ofList (s.take n)), s.drop n)
  | none =>
    match s with
    | [] => none
    | c :: r =>
      if startsMark s then
        if c = '\'' then if startsLifetime r then some (.mark c true, r) else none
        else some (.mark c (startsMark r), r)
      else if literalPrefixes.any (·.isPrefixOf s) then none
      else (identifier? s).map fun p => (.word p.1, p.2)

/-- Whether each carriage return stands before a line feed. -/
def noBareReturn : List Char → Bool
  | [] => true
  | '\r' :: '\n' :: r => noBareReturn r
  | c :: r => c ≠ '\r' && noBareReturn r

/-- The attribute that a documentation comment stands for. -/
def docTokens (inner : Bool) (text : List Char) : List Token :=
  .mark '#' false :: (if inner then [.mark '!' false] else []) ++
    [.opening .bracket, .word "doc", .mark '=' false, .literal (stringLiteral text),
     .closing .bracket]

/-- Reads tokens. Each step takes a character, so the length of the text is fuel enough. -/
def tokensFrom : Nat → List Char → Option (List Token)
  | 0, _ => none
  | _ + 1, [] => some []
  | fuel + 1, c :: r =>
    match plainComment? (c :: r) with
    | some rest => tokensFrom fuel rest
    | none =>
      if isSpace c then tokensFrom fuel r
      else
        match docComment? (c :: r) with
        | some (inner, text, rest) =>
          if noBareReturn text then (tokensFrom fuel rest).map (docTokens inner text ++ ·) else none
        | none =>
          match Delimiter.ofOpening? c, Delimiter.ofClosing? c with
          | some d, _ => (tokensFrom fuel r).map (.opening d :: ·)
          | _, some d => (tokensFrom fuel r).map (.closing d :: ·)
          | none, none => do
            let (t, rest) ← leaf? (c :: r)
            (tokensFrom fuel rest).map (t :: ·)

def dropByteOrderMark : List Char → List Char
  | '\ufeff' :: r => r
  | r => r

/-- Tokens of a text; none when some part of it is no token. -/
def tokens? (s : List Char) : Option (List Token) :=
  let s := dropByteOrderMark s
  tokensFrom (s.length + 1) s

def trees? (s : List Char) : Option (List Tree) := (tokens? s).bind nest?

end EnumForge.Source
