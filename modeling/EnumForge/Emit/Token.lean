import EnumForge.Source.Literal
import EnumForge.Text.Hex
import EnumForge.Table.Width

namespace EnumForge.Emit

open EnumForge.Text

inductive Token
  | word (value : String)
  | doc (value : String)
  | family (name : String)
  | constant (name : String)
  | integer (width : Width)
  | text (value : String)
  | number (value : UInt64)
deriving DecidableEq, Repr

/-- Text of a token. Documentation is a raw literal, and numbers are hexadecimal. -/
def Token.render : Token → String
  | word value => value
  | doc value => "r\"" ++ value ++ "\""
  | family name => name
  | constant name => name
  | integer width => width.typeName
  | text value => Source.stringLiteral value.toList
  | number value => String.ofList ('0' :: 'x' :: hexUpper value.toNat)

/-- Whether nothing comes between the token and the next one. -/
def Token.opens (t : Token) : Bool := t == .word "(" || t == .word "["

/-- Whether nothing comes between the token and the one before it. -/
def Token.closes (t : Token) : Bool := t == .word ")" || t == .word "]"

/-- What separates two tokens. -/
def gap (left right : Token) : String := if left.opens || right.closes then "" else " "

/-- Texts of the tokens after one, each with what separates it from the one before. -/
def renderAfter (left : Token) : List Token → List String
  | [] => []
  | t :: ts => gap left t :: t.render :: renderAfter t ts

/-- Text of some tokens on one line. -/
def render : List Token → String
  | [] => ""
  | t :: ts => String.join (t.render :: renderAfter t ts)

/-- Splits a text at blanks; `word` holds the letters since the last blank, the latest first. -/
def splitWords (word : List Char) : List Char → List (List Char)
  | [] => if word.isEmpty then [] else [word.reverse]
  | c :: cs =>
    if c = ' ' then
      if word.isEmpty then splitWords [] cs else word.reverse :: splitWords [] cs
    else splitWords (c :: word) cs

/-- Fixed words, given with a blank between each two. -/
def words (text : String) : List Token :=
  (splitWords [] text.toList).map fun w => .word (String.ofList w)

/-- The letters of fixed words, which is where a scan of them looks. -/
theorem words_ofList (cs : List Char) :
    words (String.ofList cs) = (splitWords [] cs).map fun w => .word (String.ofList w) := by
  rw [words, String.toList_ofList]

def braces (inner : List Token) : List Token := .word "\x7b" :: inner ++ [.word "\x7d"]

def docs (text : String) : List Token := words "# [ doc =" ++ .doc text :: words "]"

end EnumForge.Emit
