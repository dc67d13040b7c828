import EnumForge.Unicode.XidContinue

namespace EnumForge.Source

open EnumForge.Unicode

def isWordStart (c : Char) : Bool := c == '_' || isXidStart c

def isWordChar (c : Char) : Bool := isXidContinue c

/-- A text that the lexer reads as one word. -/
def isWord (s : List Char) : Bool :=
  match s with
  | [] => false
  | c :: cs => isWordStart c && cs.all isWordChar

/-- The word at the head of a text, and what follows it. -/
def takeWord? (s : List Char) : Option (List Char × List Char) :=
  match s with
  | [] => none
  | c :: cs =>
    if isWordStart c then some (c :: cs.takeWhile isWordChar, cs.dropWhile isWordChar) else none

/-- Words with a meaning of their own, now or in reserve; the lone underscore is one of them. -/
def keywords : List String :=
  ["_", "abstract", "as", "async", "await", "become", "box", "break", "const", "continue", "crate",
   "do", "dyn", "else", "enum", "extern", "false", "final", "fn", "for", "if", "impl", "in", "let",
   "loop", "macro", "match", "mod", "move", "mut", "override", "priv", "pub", "ref", "return",
   "Self", "self", "static", "struct", "super", "trait", "true", "try", "type", "typeof", "unsafe",
   "unsized", "use", "virtual", "where", "while", "yield"]

/-- Words that stay keywords after `r#`. -/
def neverRaw : List String := ["_", "super", "self", "Self", "crate"]

/-- Whether a name can be written out as an identifier: a word, keyword or not, or `r#` and a word
that may be raw. -/
def isIdentifier (name : String) : Bool :=
  match name.toList with
  | 'r' :: '#' :: word => isWord word && !neverRaw.contains (String.ofList word)
  | word => isWord word

end EnumForge.Source
