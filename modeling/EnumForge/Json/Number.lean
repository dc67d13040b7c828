import EnumForge.Json.Fault
import EnumForge.Decimal.Style

namespace EnumForge.Json

open EnumForge.Decimal

/-- The power of ten after the `e` of a literal. -/
structure Power where
  negative : Bool
  digits : List Char
deriving DecidableEq, Repr

/-- The parts of a number's text. -/
structure Literal where
  negative : Bool
  whole : List Char
  fraction : Option (List Char)
  power : Option Power
deriving DecidableEq, Repr

/-- Whether the text has neither a fraction nor a power of ten. -/
def Literal.isInteger (l : Literal) : Bool := l.fraction.isNone && l.power.isNone

inductive Number
  | natural (n : Nat)
  | negative (n : Nat)
  | real (minus : Bool) (magnitude : Binary64)
deriving DecidableEq, Repr

def Number.text : Number → String
  | .natural n => toString n
  | .negative n => "-" ++ toString n
  | .real minus x => String.ofList ((if minus then ['-'] else []) ++ Style.number.write x)

def Number.found : Number → Found
  | .real minus x => .real (Number.real minus x).text
  | n => .integer n.text

def digitValue (c : Char) : Nat := c.toNat - '0'.toNat

/-- Takes digits into the number while it stays below 2^64; the second part is what is left. -/
def absorb (n : Nat) : List Char → Nat × List Char
  | [] => (n, [])
  | c :: cs =>
    if 10 * n + digitValue c < Nat.pow 2 64 then absorb (10 * n + digitValue c) cs else (n, c :: cs)

/-- Greatest power of ten that is counted. -/
def maxPower : Nat := Nat.pow 2 31 - 1

def decimalValue (digits : List Char) : Nat := digits.foldl (fun n c => 10 * n + digitValue c) 0

/-- The leading digits of a number as far as 64 bits hold them, and the power of ten they lack
before the literal's own power is counted. -/
def Literal.significand (l : Literal) : Nat × Int :=
  let (whole, dropped) := absorb 0 l.whole
  let fraction := l.fraction.getD []
  let (n, ignored) := absorb whole fraction
  (n, (dropped.length : Int) - (fraction.length - ignored.length : Nat))

/-- Magnitude of a literal as a real number; none when it is too large. -/
def Literal.magnitude? (l : Literal) : Option Binary64 :=
  let (n, lacking) := l.significand
  match l.power with
  | none => Binary64.ofScaled? n lacking
  | some p =>
    let power := decimalValue p.digits
    if power ≤ maxPower then
      Binary64.ofScaled? n (if p.negative then lacking - power else lacking + power)
    else if n ≠ 0 ∧ ¬ p.negative then none
    else some .zero

/-- Value of a literal; none when it is too large for a real number. -/
def Literal.number? (l : Literal) : Option Number :=
  let (n, dropped) := absorb 0 l.whole
  if l.isInteger ∧ dropped = [] then
    if ¬ l.negative then some (.natural n)
    else if 0 < n ∧ n ≤ Nat.pow 2 63 then some (.negative n)
    else (Binary64.ofNat? n).map (.real true)
  else l.magnitude?.map (.real l.negative)

def isDigit (c : Char) : Bool := '0' ≤ c && c ≤ '9'

/-- Reads the digits of a power of ten; `atEnd` is the cause when the text stops before them. -/
def readPower (atEnd : Cause) (s : List Char) : Except Fault (Power × List Char) :=
  let (negative, s) :=
    match s with
    | '+' :: r => (false, r)
    | '-' :: r => (true, r)
    | r => (false, r)
  match s with
  | [] => .error (.here atEnd [])
  | c :: _ =>
    if isDigit c then .ok (⟨negative, s.takeWhile isDigit⟩, s.dropWhile isDigit)
    else .error (.next .invalidNumber s)

def readPower? (atEnd : Cause) (s : List Char) : Except Fault (Option Power × List Char) :=
  match s with
  | c :: r =>
    if c = 'e' ∨ c = 'E' then do
      let (p, rest) ← readPower atEnd r
      .ok (some p, rest)
    else .ok (none, s)
  | [] => .ok (none, s)

def readFraction? (atEnd : Cause) (s : List Char) : Except Fault (Option (List Char) × List Char) :=
  match s with
  | '.' :: r =>
    match r with
    | [] => .error (.here atEnd [])
    | c :: _ =>
      if isDigit c then .ok (some (r.takeWhile isDigit), r.dropWhile isDigit)
      else .error (.next .invalidNumber r)
  | _ => .ok (none, s)

/-- Reads the digits before the point: a leading zero stands alone. -/
def readWhole (atEnd : Cause) (s : List Char) : Except Fault (List Char × List Char) :=
  match s with
  | [] => .error (.here atEnd [])
  | c :: r =>
    if c = '0' then
      match r with
      | d :: _ => if isDigit d then .error (.next .invalidNumber r) else .ok (['0'], r)
      | [] => .ok (['0'], r)
    else if isDigit c then .ok (s.takeWhile isDigit, s.dropWhile isDigit)
    else .error (.next .invalidNumber s)

/-- Reads the text of a number that begins with a digit or a minus sign. -/
def readLiteral (atEnd : Cause) (s : List Char) : Except Fault (Literal × List Char) := do
  let (negative, s) :=
    match s with
    | '-' :: r => (true, r)
    | r => (false, r)
  let (whole, s) ← readWhole atEnd s
  let (fraction, s) ← readFraction? atEnd s
  let (power, s) ← readPower? atEnd s
  .ok (⟨negative, whole, fraction, power⟩, s)

/-- How many digits of a power of ten are looked at before it is known to be too large. -/
def decisiveDigits (digits : List Char) : Nat :=
  ((List.range digits.length).find? fun n => maxPower < decimalValue (digits.take (n + 1))).elim
    digits.length (· + 1)

/-- Where a number that is too large is found out: after its text, or inside its power of ten as
soon as that alone is too large. -/
def outOfRange (l : Literal) (rest : List Char) : Fault :=
  match l.power with
  | none => .here .numberOutOfRange rest
  | some p =>
    .placed .numberOutOfRange (byteCount rest + (p.digits.length - decisiveDigits p.digits))

/-- A number's text with its value. -/
structure Numeral where
  literal : Literal
  number : Number
  number_eq : literal.number? = some number

/-- Reads a number that begins with a digit or a minus sign. -/
def readNumeral (s : List Char) : Except Fault (Numeral × List Char) := do
  let (l, rest) ← readLiteral .endInValue s
  match h : l.number? with
  | some n => .ok (⟨l, n, h⟩, rest)
  | none => .error (outOfRange l rest)

end EnumForge.Json
