import EnumForge.Source.Word
import EnumForge.Text.Quoted

namespace EnumForge.Source

open EnumForge.Text

/-- Kinds of literals between double quotes. -/
inductive StringKind
  | text
  | bytes
  | c
deriving DecidableEq, Repr

/-- Whether a byte given by two hexadecimal digits may stand in a literal of the kind: text holds
ASCII alone, and a `c` literal no zero byte. -/
def StringKind.allowsByte : StringKind → Nat → Bool
  | text, n => n < 0x80
  | bytes, _ => true
  | c, n => n ≠ 0

def StringKind.allowsChar : StringKind → Char → Bool
  | text, _ => true
  | bytes, ch => ch.toNat < 0x80
  | c, ch => ch ≠ '\x00'

/-- Reads the digits of a braced code point up to its closing brace: its value and how many
characters that takes. -/
def bracedDigits (value count : Nat) : List Char → Option (Nat × Nat)
  | [] => none
  | c :: cs =>
    if c = '\x7d' then if 0 < count then some (value, 1) else none
    else
      let next :=
        if c = '_' then if 0 < count then bracedDigits value count cs else none
        else
          match hexDigit? c with
          | some d => if count < 6 then bracedDigits (16 * value + d) (count + 1) cs else none
          | none => none
      next.map fun p => (p.1, p.2 + 1)

def validChar? (n : Nat) : Option Char :=
  if h : n.isValidChar then some (Char.ofNatAux n h) else none

/-- Reads an escape after its backslash: the character and how many characters it takes. -/
def readEscape? (kind : StringKind) : List Char → Option (Char × Nat)
  | 'n' :: _ => some ('\n', 1)
  | 'r' :: _ => some ('\r', 1)
  | 't' :: _ => some ('\t', 1)
  | '\\' :: _ => some ('\\', 1)
  | '\'' :: _ => some ('\'', 1)
  | '"' :: _ => some ('"', 1)
  | '0' :: _ => if kind = .c then none else some ('\x00', 1)
  | 'x' :: a :: b :: _ => do
    let n := 16 * (← hexDigit? a) + (← hexDigit? b)
    if kind.allowsByte n then some (Char.ofNat n, 3) else none
  | 'u' :: '\x7b' :: r =>
    if kind = .bytes then none
    else do
      let (n, count) ← bracedDigits 0 0 r
      some (← validChar? n, count + 2)
  | _ => none

/-- How many blanks follow a backslash at the end of a line, the line feed included; a carriage
return comes before a line feed only, and the text goes on after them. -/
def lineEndLength : List Char → Option Nat
  | [] => none
  | '\r' :: '\n' :: r => (lineEndLength r).map (· + 2)
  | c :: r =>
    if c = '\r' then none
    else if c = ' ' ∨ c = '\t' ∨ c = '\n' then (lineEndLength r).map (· + 1)
    else some 0

/-- Reads a literal with escapes after its opening quote: its value, and how many characters it
takes up to its closing quote. The first `skip` characters belong to an escape that has been read.
-/
def readCookedFrom (kind : StringKind) : Nat → List Char → Option (List Char × Nat)
  | _, [] => none
  | skip + 1, _ :: cs => (readCookedFrom kind skip cs).map fun p => (p.1, p.2 + 1)
  | 0, c :: cs =>
    if c = '"' then some ([], 1)
    else if c = '\r' then
      if cs.head? = some '\n' then
        (readCookedFrom kind 1 cs).map fun p => ('\n' :: p.1, p.2 + 1)
      else none
    else if c = '\\' then
      if cs.head? = some '\n' ∨ cs.head? = some '\r' then do
        let (value, count) ← readCookedFrom kind (← lineEndLength cs) cs
        some (value, count + 1)
      else do
        let (d, n) ← readEscape? kind cs
        let (value, count) ← readCookedFrom kind n cs
        some (d :: value, count + 1)
    else if kind.allowsChar c then
      (readCookedFrom kind 0 cs).map fun p => (c :: p.1, p.2 + 1)
    else none

/-- Reads a raw literal after its opening quote, up to a quote and as many `#` as opened it. -/
def readRaw (kind : StringKind) (hashes : List Char) : List Char → Option (List Char × Nat)
  | [] => none
  | c :: cs =>
    if c = '"' ∧ hashes.isPrefixOf cs then some ([], hashes.length + 1)
    else if c = '\r' ∧ cs.head? ≠ some '\n' then none
    else if kind.allowsChar c then (readRaw kind hashes cs).map fun p => (c :: p.1, p.2 + 1)
    else none

/-- Reads `#…#"` and the raw literal after it; at most 255 marks are counted. -/
def readHashed (kind : StringKind) (s : List Char) : Option (List Char × Nat) :=
  let hashes := s.takeWhile (· = '#')
  match s.drop hashes.length with
  | '"' :: r =>
    if hashes.length ≤ 255 then
      (readRaw kind hashes r).map fun p => (p.1, p.2 + hashes.length + 1)
    else none
  | _ => none

/-- A string literal at the head of a text. -/
structure StringToken where
  kind : StringKind
  value : List Char
  length : Nat

/-- Reads a string literal of any kind, without the suffix that may follow it. -/
def readStringLiteral (s : List Char) : Option StringToken :=
  let cooked := fun kind start r =>
    (readCookedFrom kind 0 r).map fun p => (⟨kind, p.1, p.2 + start⟩ : StringToken)
  let raw := fun kind start r =>
    (readHashed kind r).map fun p => (⟨kind, p.1, p.2 + start⟩ : StringToken)
  match s with
  | '"' :: r => cooked .text 1 r
  | 'r' :: r => raw .text 1 r
  | 'b' :: '"' :: r => cooked .bytes 2 r
  | 'b' :: 'r' :: r => raw .bytes 2 r
  | 'c' :: '"' :: r => cooked .c 2 r
  | 'c' :: 'r' :: r => raw .c 2 r
  | _ => none

def quotedCharLength (kind : StringKind) (s : List Char) : Option Nat := do
  let n ←
    match s with
    | '\\' :: r => (readEscape? kind r).map (·.2 + 1)
    | c :: _ => if kind.allowsChar c then some 1 else none
    | [] => none
  if (s.drop n).head? = some '\'' then some (n + 1) else none

/-- Length of the word that may end a literal without a space. -/
def suffixLength (s : List Char) : Nat :=
  match takeWord? s with
  | some (word, _) => word.length
  | none => 0

/-- Length of a number that has taken `n` characters and of its suffix; no more of a word may
follow. -/
def endNumber (s : List Char) (n : Nat) : Option Nat :=
  let n := n + suffixLength (s.drop n)
  if (s.drop n).head?.any isWordChar then none else some n

def isDecimalDigit (c : Char) : Bool := '0' ≤ c && c ≤ '9'

def isDecimalOrGap (c : Char) : Bool := isDecimalDigit c || c == '_'

/-- Length of the power of ten of a number after its `e`; none when it has no digits. -/
def powerLength (s : List Char) : Option Nat :=
  let gaps := (s.takeWhile (· = '_')).length
  let start :=
    match s.drop gaps with
    | '+' :: _ => gaps + 1
    | '-' :: _ => gaps + 1
    | _ => gaps
  let digits := (s.drop start).takeWhile isDecimalOrGap
  if digits.any isDecimalDigit then some (start + digits.length) else none

/-- Length of a number with a point or a power of ten. -/
def realLength (s : List Char) : Option Nat := do
  guard (s.head?.any isDecimalDigit)
  let whole := (s.takeWhile isDecimalOrGap).length
  match s.drop whole with
  | '.' :: f => do
    guard (f.head?.all fun c => c ≠ '.' && !isWordStart c)
    let n := whole + 1 + (f.takeWhile isDecimalOrGap).length
    match s.drop n with
    | c :: p =>
      if c = 'e' ∨ c = 'E' then
        match powerLength p with
        | some m => endNumber s (n + 1 + m)
        | none => endNumber s n
      else endNumber s n
    | [] => some n
  | c :: p =>
    if c = 'e' ∨ c = 'E' then do endNumber s (whole + 1 + (← powerLength p)) else none
  | [] => none

/-- Number of digits of a whole number in a base up to ten or sixteen. -/
def digitsLength (base : Nat) (s : List Char) : Option Nat :=
  let digits := s.takeWhile fun c => isDecimalOrGap c || (base = 16 && (hexDigit? c).isSome)
  if digits.all (· = '_') ∨ (base = 10 ∧ digits.head? = some '_') ∨
      digits.any (fun c => isDecimalDigit c && base ≤ c.toNat - '0'.toNat) then none
  else some digits.length

def wholeLength (s : List Char) : Option Nat := do
  let n ←
    match s with
    | '0' :: 'x' :: r => (digitsLength 16 r).map (· + 2)
    | '0' :: 'o' :: r => (digitsLength 8 r).map (· + 2)
    | '0' :: 'b' :: r => (digitsLength 2 r).map (· + 2)
    | r => digitsLength 10 r
  endNumber s n

/-- The number that digits in a base denote; gaps between them do not count. -/
def digitsValue? (base : Nat) (s : List Char) : Option Nat :=
  s.foldlM (fun n c =>
    if c = '_' then some n
    else (hexDigit? c).bind fun d => if d < base then some (base * n + d) else none) 0

/-- The number that a whole number without a suffix denotes. -/
def wholeValue? : List Char → Option Nat
  | '0' :: 'x' :: r => digitsValue? 16 r
  | '0' :: 'o' :: r => digitsValue? 8 r
  | '0' :: 'b' :: r => digitsValue? 2 r
  | r => digitsValue? 10 r

def literalLength (s : List Char) : Option Nat :=
  let suffixed := fun n => n + suffixLength (s.drop n)
  match readStringLiteral s with
  | some t => some (suffixed t.length)
  | none =>
    let quoted :=
      match s with
      | 'b' :: '\'' :: r => (quotedCharLength .bytes r).map (suffixed <| · + 2)
      | '\'' :: r => (quotedCharLength .text r).map (suffixed <| · + 1)
      | _ => none
    (quoted <|> realLength s) <|> wholeLength s

/-- The text that a string literal denotes, whatever its suffix; none for any other token. -/
def stringValue? (literal : String) : Option (List Char) :=
  match readStringLiteral literal.toList with
  | some ⟨.text, value, length⟩ =>
    if length + suffixLength (literal.toList.drop length) = literal.length then some value else none
  | _ => none

/-- Whether the digit could extend an escaped zero to an octal number in other languages. -/
def isOctalDigit (c : Char) : Bool := '0' ≤ c && c ≤ '7'

/-- Escaped form of the characters of a literal: as in quoted text, but for apostrophes, which stay,
and for a zero before an octal digit, which takes two digits. -/
def literalBody : List Char → List Char
  | [] => []
  | c :: cs =>
    (if c = '\x00' ∧ cs.head?.any isOctalDigit then ['\\', 'x', '0', '0'] else escape c)
      ++ literalBody cs

def stringLiteral (s : List Char) : String := String.ofList ('"' :: literalBody s ++ ['"'])

end EnumForge.Source
