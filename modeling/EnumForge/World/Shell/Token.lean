import EnumForge.World.Shell.Word

namespace EnumForge.Shell

/-- What a redirection does with a descriptor. A document stands in the script itself, and its
parameters have values where it is open. -/
inductive Redirection
  | read
  | write
  | append
  | copy
  | document (text : List Char) (isOpen : Bool)
deriving DecidableEq, Repr

/-- A word, an operator, a redirection whose target is the word after it, the end of the script, or
what is wrong with the rest of it. -/
inductive Token
  | word (word : Word)
  | operator (text : String)
  | redirection (descriptor : Nat) (sort : Redirection)
  | ending
  | fault (text : String)
deriving DecidableEq, Repr

abbrev Tokens := List (Nat × Token)

/-- Progress in splitting a script; the latest token stands first. `documents` counts the characters
of the documents that begin on the next line. -/
structure Splitting where
  tokens : Tokens
  word : Option Word
  line : Nat
  documents : Nat

namespace Splitting

def push (s : Splitting) (t : Token) : Splitting := { s with tokens := (s.line, t) :: s.tokens }

def endWord (s : Splitting) : Splitting :=
  match s.word with
  | none => s
  | some w => { s.push (.word w) with word := none }

def extend (s : Splitting) (w : Word) : Splitting := { s with word := some (s.word.getD [] ++ w) }

/-- Goes past characters, of which some may end lines. -/
def passed (s : Splitting) (cs : List Char) : Splitting :=
  { s with line := s.line + cs.count '\n' }

/-- Takes the descriptor that stands right before a redirection. -/
def descriptor (s : Splitting) (usual : Nat) : Nat × Splitting :=
  match s.word with
  | some [.plain c] =>
    if c.isDigit then (c.toNat - '0'.toNat, { s with word := none }) else (usual, s.endWord)
  | _ => (usual, s.endWord)

end Splitting

/-- The operators of more than one character stand before those that begin them. -/
def operators : List String := ["&&", "||", ";;", ";", "&", "|", "(", ")"]

def operator? (cs : List Char) : Option String :=
  operators.find? fun o => o.toList.isPrefixOf cs

/-- The redirections, with the descriptor that each usually changes. -/
def redirections : List (String × Nat × Redirection) :=
  [(">>", 1, .append), (">&", 1, .copy), (">|", 1, .write), (">", 1, .write), ("<&", 0, .copy),
   ("<", 0, .read)]

/-- Lines of a document up to the one that ends it, and how many characters they all take. -/
def documentLines (trims : Bool) (ending : List Char) : List (List Char) → List (List Char) × Nat
  | [] => ([], 0)
  | line :: lines =>
    let text := if trims then line.dropWhile (· = '\t') else line
    if text = ending then ([], line.length + 1)
    else
      let (rest, n) := documentLines trims ending lines
      (text :: rest, n + line.length + 1)

/-- Lines of a text without the characters that end them. -/
def textLines (cs : List Char) : List (List Char) := cs.splitOn '\n'

/-- The document that a redirection begins: the redirection, how many characters its ending takes on
this line, and how many the document takes after the line. -/
def document (begun : Nat) (cs : List Char) : Redirection × Nat × Nat :=
  let trims := cs.head? = some '-'
  let afterDash := if trims then cs.drop 1 else cs
  let blanks := afterDash.takeWhile fun c => c = ' ' || c = '\t'
  let ending := (afterDash.drop blanks.length).takeWhile fun c =>
    c ∉ [' ', '\t', '\n', ';', '&', '|', '<', '>', '(', ')']
  let name := ending.filter (· ∉ ['\'', '"', '\\'])
  let body := ((cs.dropWhile (· ≠ '\n')).drop 1).drop begun
  let (lines, size) := documentLines trims name (textLines body)
  (.document (lines.flatMap (· ++ ['\n'])) (name = ending),
    (if trims then 1 else 0) + blanks.length + ending.length, size)

/-- Splits a script into tokens; `skip` characters at the head have been read already. -/
def tokensFrom : Nat → Splitting → List Char → Tokens
  | _, s, [] => (s.endWord.push .ending).tokens.reverse
  | skip + 1, s, c :: cs => tokensFrom skip (s.passed [c]) cs
  | 0, s, c :: cs =>
    if c = '\n' then
      let ended := { s.endWord.passed [c] with documents := 0 }
      tokensFrom s.documents (ended.push (.operator "\n")) cs
    else if c = ' ' ∨ c = '\t' then tokensFrom 0 s.endWord cs
    else if c = '#' ∧ s.word = none then tokensFrom (cs.takeWhile (· ≠ '\n')).length s cs
    else if c = '<' ∧ cs.head? = some '<' then
      let (descriptor, s) := s.descriptor 0
      let (sort, onLine, after) := document s.documents (cs.drop 1)
      tokensFrom (onLine + 1)
        { s.push (.redirection descriptor sort) with documents := s.documents + after } cs
    else
      match redirections.find? fun r => r.1.toList.isPrefixOf (c :: cs) with
      | some (text, usual, sort) =>
        let (descriptor, s) := s.descriptor usual
        tokensFrom (text.length - 1) (s.push (.redirection descriptor sort)) cs
      | none =>
        match operator? (c :: cs) with
        | some text => tokensFrom (text.length - 1) (s.endWord.push (.operator text)) cs
        | none =>
          match fragments? (c :: cs) with
          | .ok (word, n) => tokensFrom n (if word.isEmpty then s else s.extend word) cs
          | .error text => ((s.passed cs).push (.fault text)).tokens.reverse

def tokens (script : List Char) : Tokens := tokensFrom 0 ⟨[], none, 1, 0⟩ script

def Token.text : Token → String
  | .word _ => "word"
  | .operator "\n" => "newline"
  | .operator text => s!"\"{text}\""
  | .redirection .. => "redirection"
  | .ending => "end of file"
  | .fault text => text

end EnumForge.Shell
