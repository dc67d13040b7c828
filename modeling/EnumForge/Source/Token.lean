namespace EnumForge.Source

inductive Delimiter
  | paren
  | bracket
  | brace
deriving DecidableEq, Repr, Inhabited

def Delimiter.opening : Delimiter → Char
  | paren => '('
  | bracket => '['
  | brace => '\x7b'

def Delimiter.closing : Delimiter → Char
  | paren => ')'
  | bracket => ']'
  | brace => '\x7d'

def Delimiter.ofOpening? (c : Char) : Option Delimiter :=
  [paren, bracket, brace].find? (·.opening == c)

def Delimiter.ofClosing? (c : Char) : Option Delimiter :=
  [paren, bracket, brace].find? (·.closing == c)

/-- A token: a word, a mark that may run into the next one, the text of a literal, or a bracket. -/
inductive Token
  | word (text : String)
  | mark (c : Char) (joint : Bool)
  | literal (text : String)
  | opening (d : Delimiter)
  | closing (d : Delimiter)
deriving DecidableEq, Repr, Inhabited

/-- Tokens whose brackets match. -/
inductive Tree
  | word (text : String)
  | mark (c : Char) (joint : Bool)
  | literal (text : String)
  | group (d : Delimiter) (trees : List Tree)
deriving Repr, Inhabited

/-- An open bracket and the trees before it, the latest first. -/
abbrev OpenGroups := List (Delimiter × List Tree)

/-- Builds trees; `done` holds the trees of the innermost open bracket, the latest first. -/
def nestFrom (stack : OpenGroups) (done : List Tree) : List Token → Option (List Tree)
  | [] => if stack.isEmpty then some done.reverse else none
  | .word t :: ts => nestFrom stack (.word t :: done) ts
  | .mark c j :: ts => nestFrom stack (.mark c j :: done) ts
  | .literal t :: ts => nestFrom stack (.literal t :: done) ts
  | .opening d :: ts => nestFrom ((d, done) :: stack) [] ts
  | .closing d :: ts =>
    match stack with
    | [] => none
    | (e, outer) :: stack =>
      if d = e then nestFrom stack (.group d done.reverse :: outer) ts else none

/-- The trees of some tokens; none when a bracket has no partner. -/
def nest? (tokens : List Token) : Option (List Tree) := nestFrom [] [] tokens

end EnumForge.Source
