import EnumForge.Toml.Value
import EnumForge.Text.Hex

namespace EnumForge.Toml

open EnumForge.Text EnumForge.Decimal

/-- A blank inside a line. -/
def isBlank (c : Char) : Bool := c = ' ' || c = '\t'

def skipBlank (s : List Char) : List Char := s.dropWhile isBlank

/-- Whether a character may stand in a comment or a string without an escape. -/
def isPlain (c : Char) : Bool := c = '\t' || (' ' ≤ c && c ≠ '\x7f')

def lineEnd? : List Char → Option (List Char)
  | '\n' :: r => some r
  | '\r' :: '\n' :: r => some r
  | _ => none

def skipComment (s : List Char) : List Char :=
  match s with
  | '#' :: r => r.dropWhile isPlain
  | r => r

/-- The character with the code point that the first `count` hexadecimal digits give. -/
def hexChar? (count : Nat) (s : List Char) : Option Char := do
  guard ((s.take count).length = count)
  let n ← hexValue? (s.take count)
  if h : n.isValidChar then some (Char.ofNatAux n h) else none

/-- Reads an escape after its backslash: the character, and how many characters the escape takes. -/
def readEscape? : List Char → Option (Char × Nat)
  | [] => none
  | c :: r =>
    match c with
    | 'b' => some ('\x08', 1)
    | 't' => some ('\t', 1)
    | 'n' => some ('\n', 1)
    | 'f' => some ('\x0c', 1)
    | 'r' => some ('\r', 1)
    | 'e' => some ('\x1b', 1)
    | '"' => some ('"', 1)
    | '\\' => some ('\\', 1)
    | 'x' => (hexChar? 2 r).map (·, 3)
    | 'u' => (hexChar? 4 r).map (·, 5)
    | 'U' => (hexChar? 8 r).map (·, 9)
    | _ => none

def andThen (c : Char) (r : Option (List Char × List Char)) : Option (List Char × List Char) :=
  r.map fun p => (c :: p.1, p.2)

/-- Reads a string of one line with escapes, after its quote; the first `skip` characters belong to
an escape that has been read. -/
def readBasicFrom : Nat → List Char → Option (List Char × List Char)
  | _, [] => none
  | skip + 1, _ :: cs => readBasicFrom skip cs
  | 0, c :: cs =>
    if c = '"' then some ([], cs)
    else if c = '\\' then do
      let (d, n) ← readEscape? cs
      andThen d (readBasicFrom n cs)
    else if isPlain c then andThen c (readBasicFrom 0 cs)
    else none

/-- Reads a string of one line without escapes, after its quote. -/
def readLiteral : List Char → Option (List Char × List Char)
  | [] => none
  | c :: cs =>
    if c = '\'' then some ([], cs) else if isPlain c then andThen c (readLiteral cs) else none

/-- The quotes that end a string of many lines: three, after up to two that belong to it. -/
def closingQuotes? (quote : Char) (s : List Char) : Option (List Char × List Char) :=
  let n := (s.takeWhile (· = quote)).length
  if 3 ≤ n then some (List.replicate (min (n - 3) 2) quote, s.drop (min n 5)) else none

/-- How many characters a backslash at the end of a line takes: the blanks after it, the line end,
and all blanks and line ends that follow. -/
def lineBreakLength? (s : List Char) : Option Nat :=
  let blanks := (s.takeWhile isBlank).length
  match lineEnd? (s.drop blanks) with
  | none => none
  | some _ => some (s.takeWhile fun c => isBlank c || c = '\n' || c = '\r').length

/-- Reads a string of many lines with escapes. -/
def readLongBasicFrom : Nat → List Char → Option (List Char × List Char)
  | _, [] => none
  | skip + 1, _ :: cs => readLongBasicFrom skip cs
  | 0, c :: cs =>
    match if c = '"' then closingQuotes? '"' (c :: cs) else none with
    | some (quotes, rest) => some (quotes, rest)
    | none =>
      if c = '\\' then
        match lineBreakLength? cs with
        | some n => readLongBasicFrom n cs
        | none => do
          let (d, n) ← readEscape? cs
          andThen d (readLongBasicFrom n cs)
      else if isPlain c || c = '\n' then andThen c (readLongBasicFrom 0 cs)
      else if c = '\r' ∧ cs.head? = some '\n' then andThen '\n' (readLongBasicFrom 1 cs)
      else none

/-- Reads a string of many lines without escapes. -/
def readLongLiteralFrom : Nat → List Char → Option (List Char × List Char)
  | _, [] => none
  | skip + 1, _ :: cs => readLongLiteralFrom skip cs
  | 0, c :: cs =>
    match if c = '\'' then closingQuotes? '\'' (c :: cs) else none with
    | some (quotes, rest) => some (quotes, rest)
    | none =>
      if isPlain c || c = '\n' then andThen c (readLongLiteralFrom 0 cs)
      else if c = '\r' ∧ cs.head? = some '\n' then andThen '\n' (readLongLiteralFrom 1 cs)
      else none

/-- Drops the line end right after the opening quotes of a string of many lines. -/
def dropFirstLineEnd (s : List Char) : List Char := (lineEnd? s).getD s

def readString? (s : List Char) : Option (String × List Char) :=
  let text : Option (List Char × List Char) :=
    match s with
    | '"' :: '"' :: '"' :: r => readLongBasicFrom 0 (dropFirstLineEnd r)
    | '\'' :: '\'' :: '\'' :: r => readLongLiteralFrom 0 (dropFirstLineEnd r)
    | '"' :: r => readBasicFrom 0 r
    | '\'' :: r => readLiteral r
    | _ => none
  text.map fun p => (String.ofList p.1, p.2)

def isBareKey (c : Char) : Bool := c.isAlphanum || c = '_' || c = '-'

def readKeyPart? (s : List Char) : Option (String × List Char) :=
  match s with
  | '"' :: r => (readBasicFrom 0 r).map fun p => (String.ofList p.1, p.2)
  | '\'' :: r => (readLiteral r).map fun p => (String.ofList p.1, p.2)
  | _ =>
    let key := s.takeWhile isBareKey
    if key.isEmpty then none else some (String.ofList key, s.dropWhile isBareKey)

/-- Reads a key of at most `limit` parts that are joined by points. -/
def readKeyWithin? : Nat → List Char → Option (List String × List Char)
  | 0, _ => none
  | limit + 1, s => do
    let (part, r) ← readKeyPart? (skipBlank s)
    match skipBlank r with
    | '.' :: r => do
      let (parts, rest) ← readKeyWithin? limit r
      some (part :: parts, rest)
    | r => some ([part], r)

/-- How deep brackets may be nested, and how many parts a key may have. -/
def maxDepth : Nat := 80

def readKey? (s : List Char) : Option (List String × List Char) := readKeyWithin? maxDepth s

/-- Whether an underscore in some digits stands between two of them. -/
def gapsInside : List Char → Bool
  | [] => true
  | ['_'] => false
  | '_' :: '_' :: _ => false
  | _ :: cs => gapsInside cs

/-- Digits without their underscores, if each stands between two digits. -/
def digits? (belongs : Char → Bool) (s : List Char) : Option (List Char) :=
  let digits := s.filter (· ≠ '_')
  if s ≠ [] ∧ s.head? ≠ some '_' ∧ gapsInside s ∧ digits.all belongs then some digits else none

def isDigit (c : Char) : Bool := '0' ≤ c && c ≤ '9'

def valueOf (base : Nat) (digits : List Char) : Option Nat :=
  digits.foldlM (fun n c => do
    let d ← hexDigit? c
    if d < base then some (base * n + d) else none) 0

/-- Decimal digits of a whole number: a leading zero stands alone. -/
def wholeDigits? (s : List Char) : Option (List Char) :=
  match digits? isDigit s with
  | some ('0' :: _ :: _) => none
  | ds => ds

def splitSign : List Char → Bool × List Char
  | '-' :: r => (true, r)
  | '+' :: r => (false, r)
  | r => (false, r)

/-- A whole number as a value: a word of 128 bits, with a sign or without, has to hold it. -/
def ofInteger (n : Int) : Value :=
  if -Int.pow 2 127 ≤ n ∧ n < Int.pow 2 128 then .integer n else .overflow

def integer? (word : List Char) : Option Int :=
  let inBase := fun base r =>
    (digits? (fun c => (hexDigit? c).any (· < base)) r).bind fun ds =>
      (valueOf base ds).map Int.ofNat
  match word with
  | '0' :: 'x' :: r => inBase 16 r
  | '0' :: 'o' :: r => inBase 8 r
  | '0' :: 'b' :: r => inBase 2 r
  | _ => do
    let (minus, r) := splitSign word
    let n ← (wholeDigits? r).bind (valueOf 10)
    some (if minus then -n else n)

/-- The binary64 number nearest to `digits * 10 ^ exponent`. The number of digits tells beforehand
when the result is zero or too large, so that powers stay small. -/
def nearest? (digits : Nat) (exponent : Int) : Option Binary64 :=
  let size := (Nat.toDigits 10 digits).length + exponent
  if digits = 0 ∨ size < -400 then some .zero
  else if 400 < size then none
  else Binary64.ofRatio? (digits * Nat.pow 10 exponent.toNat) (Nat.pow 10 (-exponent).toNat)

/-- The real number that a word is: it has a fraction, a power of ten or both. -/
def real? (word : List Char) : Option Value := do
  let (minus, r) := splitSign word
  if r = ['i', 'n', 'f'] then return .real (.infinite minus)
  if r = ['n', 'a', 'n'] then return .real .notANumber
  let mantissa := r.takeWhile fun c => c ≠ 'e' && c ≠ 'E'
  let power := (r.drop mantissa.length).drop 1
  let hasPower := mantissa.length < r.length
  let whole := mantissa.takeWhile (· ≠ '.')
  let hasFraction := whole.length < mantissa.length
  guard (hasPower || hasFraction)
  let whole' ← wholeDigits? whole
  let fraction ← if hasFraction then digits? isDigit (mantissa.drop (whole.length + 1)) else some []
  let (powerMinus, powerDigits) := splitSign power
  let power ←
    if hasPower then (digits? isDigit powerDigits).bind (valueOf 10) else some 0
  let digits ← valueOf 10 (whole' ++ fraction)
  let exponent : Int := (if powerMinus then -(power : Int) else power) - fraction.length
  return ((nearest? digits exponent).map fun x => .real (.finite minus x)).getD .overflow

def twoDigits? (low high : Nat) (s : List Char) : Option (List Char) :=
  match s with
  | a :: b :: r =>
    let n := 10 * (a.toNat - '0'.toNat) + (b.toNat - '0'.toNat)
    if isDigit a && isDigit b && low ≤ n && n ≤ high then some r else none
  | _ => none

def daysIn (year month : Nat) : Nat :=
  if month = 2 then if year % 4 = 0 ∧ (year % 100 ≠ 0 ∨ year % 400 = 0) then 29 else 28
  else if month ∈ [4, 6, 9, 11] then 30 else 31

def skipDate? (s : List Char) : Option (List Char) := do
  let year ← valueOf 10 (s.take 4)
  guard ((s.take 4).length = 4 && (s.take 4).all isDigit)
  match s.drop 4 with
  | '-' :: r => do
    let month ← valueOf 10 (r.take 2)
    let r ← twoDigits? 1 12 r
    match r with
    | '-' :: r => twoDigits? 1 (daysIn year month) r
    | _ => none
  | _ => none

/-- Passes over a time of day; seconds may be left out. -/
def skipTime? (s : List Char) : Option (List Char) := do
  let r ← twoDigits? 0 23 s
  match r with
  | ':' :: r => do
    let r ← twoDigits? 0 59 r
    match r with
    | ':' :: r => do
      let r ← twoDigits? 0 60 r
      match r with
      | '.' :: f => if f.head?.any isDigit then some (f.dropWhile isDigit) else none
      | r => some r
    | r => some r
  | _ => none

/-- Passes over the offset from universal time, if one is given. -/
def skipOffset? (s : List Char) : Option (List Char) :=
  let hours := fun r => do
    let r ← twoDigits? 0 23 r
    match r with
    | ':' :: r => twoDigits? 0 59 r
    | _ => none
  match s with
  | 'Z' :: r => some r
  | 'z' :: r => some r
  | '+' :: r => hours r
  | '-' :: r => hours r
  | r => some r

def skipDateTime? (s : List Char) : Option (List Char) :=
  match skipDate? s with
  | none => skipTime? s
  | some r =>
    match r with
    | c :: t =>
      if c = 'T' ∨ c = 't' ∨ (c = ' ' ∧ t.head?.any isDigit) then
        (skipTime? t).bind skipOffset?
      else some r
    | [] => some []

/-- A character of a number or of a word such as `true`. -/
def isWordChar (c : Char) : Bool := c.isAlphanum || c = '_' || c = '+' || c = '-' || c = '.'

def readScalar? (s : List Char) : Option (Value × List Char) :=
  match readString? s with
  | some (t, rest) => some (.string t, rest)
  | none =>
    let word := s.takeWhile isWordChar
    let rest := s.dropWhile isWordChar
    if word = ['t', 'r', 'u', 'e'] then some (.bool true, rest)
    else if word = ['f', 'a', 'l', 's', 'e'] then some (.bool false, rest)
    else
      match integer? word with
      | some n => some (ofInteger n, rest)
      | none =>
        match real? word with
        | some x => some (x, rest)
        | none => (skipDateTime? s).map (Value.time, ·)

end EnumForge.Toml
