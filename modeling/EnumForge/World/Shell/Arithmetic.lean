namespace EnumForge.Shell.Arithmetic

inductive Item
  | number (value : Int)
  | operator (text : String)
deriving DecidableEq, Repr

def operators : List String :=
  ["<<", ">>", "<=", ">=", "==", "!=", "&&", "||", "+", "-", "*", "/", "%", "<", ">", "&", "|", "^",
   "!", "~", "(", ")", "?", ":"]

/-- The number that digits are: hexadecimal after `0x`, octal after a zero, else decimal. -/
def number? (cs : List Char) : Option Int :=
  let (base, digits) :=
    match cs with
    | '0' :: 'x' :: ds => (16, ds)
    | '0' :: 'X' :: ds => (16, ds)
    | '0' :: d :: ds => (8, d :: ds)
    | ds => (10, ds)
  let digit := fun (c : Char) =>
    if c.isDigit then c.toNat - '0'.toNat
    else if 'a' ≤ c ∧ c ≤ 'f' then c.toNat - 'a'.toNat + 10
    else if 'A' ≤ c ∧ c ≤ 'F' then c.toNat - 'A'.toNat + 10
    else 99
  if digits.isEmpty then none
  else digits.foldlM (fun n c => if digit c < base then some (base * n + digit c) else none) (0 : Int)

/-- Splits an expression; `value` gives the text that a name stands for. -/
def items (value : List Char → List Char) : Nat → List Char → Option (List Item)
  | _, [] => some []
  | skip + 1, _ :: cs => items value skip cs
  | 0, c :: cs =>
    if c = ' ' ∨ c = '\t' ∨ c = '\n' then items value 0 cs
    else if c.isAlphanum ∨ c = '_' then
      let text := (c :: cs).takeWhile fun c => c.isAlphanum || c = '_'
      let digits := if c.isDigit then text else (value text).filter (· ≠ ' ')
      let number :=
        match digits with
        | [] => some 0
        | '-' :: ds => (number? ds).map (- ·)
        | ds => number? ds
      match number with
      | some n => (items value (text.length - 1) cs).map (.number n :: ·)
      | none => none
    else
      match operators.find? fun o => o.toList.isPrefixOf (c :: cs) with
      | some o => (items value (o.length - 1) cs).map (.operator o :: ·)
      | none => none

/-- How tightly an operator between two numbers binds; none where it is no such operator. -/
def strength? (o : String) : Option Nat :=
  [("||", 1), ("&&", 2), ("|", 3), ("^", 4), ("&", 5), ("==", 6), ("!=", 6), ("<", 7), (">", 7),
   ("<=", 7), (">=", 7), ("<<", 8), (">>", 8), ("+", 9), ("-", 9), ("*", 10), ("/", 10),
   ("%", 10)].lookup o

/-- The number of 64 bits that a whole number becomes. -/
def wrapped (n : Int) : Int := n.bmod (Nat.pow 2 64)

def ofBool (b : Bool) : Int := if b then 1 else 0

inductive Fault
  | divisionByZero
  | noOperand
deriving DecidableEq, Repr

def Fault.text : Fault → String
  | .divisionByZero => "division by zero"
  | .noOperand => "expecting primary"

def join (o : String) (a b : Int) : Except Fault Int :=
  let x := BitVec.ofInt 64 a
  let y := BitVec.ofInt 64 b
  match o with
  | "||" => .ok (ofBool (a ≠ 0 || b ≠ 0))
  | "&&" => .ok (ofBool (a ≠ 0 && b ≠ 0))
  | "|" => .ok (x ||| y).toInt
  | "^" => .ok (x ^^^ y).toInt
  | "&" => .ok (x &&& y).toInt
  | "==" => .ok (ofBool (a = b))
  | "!=" => .ok (ofBool (a ≠ b))
  | "<" => .ok (ofBool (a < b))
  | ">" => .ok (ofBool (a > b))
  | "<=" => .ok (ofBool (a ≤ b))
  | ">=" => .ok (ofBool (a ≥ b))
  | "<<" => .ok (x <<< (b.toNat % 64)).toInt
  | ">>" => .ok (x.sshiftRight (b.toNat % 64)).toInt
  | "+" => .ok (wrapped (a + b))
  | "-" => .ok (wrapped (a - b))
  | "*" => .ok (wrapped (a * b))
  | "/" => if b = 0 then .error .divisionByZero else .ok (wrapped (a.tdiv b))
  | "%" => if b = 0 then .error .divisionByZero else .ok (a.tmod b)
  | _ => .error .noOperand

mutual

def operand : Nat → List Item → Except Fault (Int × List Item)
  | 0, _ => .error .noOperand
  | fuel + 1, items =>
    match items with
    | .number n :: rest => .ok (n, rest)
    | .operator "(" :: rest => do
      match ← choice fuel rest with
      | (n, .operator ")" :: rest) => return (n, rest)
      | _ => throw .noOperand
    | .operator o :: rest => do
      let (n, rest) ← operand fuel rest
      match o with
      | "-" => return (wrapped (-n), rest)
      | "+" => return (n, rest)
      | "!" => return (ofBool (n = 0), rest)
      | "~" => return (-n - 1, rest)
      | _ => throw .noOperand
    | [] => .error .noOperand

/-- Joins what is left of an operator to what binds more tightly on its right. -/
def joined : Nat → Nat → Int → List Item → Except Fault (Int × List Item)
  | 0, _, _, _ => .error .noOperand
  | fuel + 1, least, a, items =>
    match items with
    | .operator o :: rest =>
      match (strength? o).filter (least ≤ ·) with
      | some strength => do
        let (b, rest) ← operand fuel rest
        let (b, rest) ← joined fuel (strength + 1) b rest
        joined fuel least (← join o a b) rest
      | none => .ok (a, items)
    | _ => .ok (a, items)

def choice : Nat → List Item → Except Fault (Int × List Item)
  | 0, _ => .error .noOperand
  | fuel + 1, items => do
    let (a, rest) ← operand fuel items
    let (a, rest) ← joined fuel 0 a rest
    match rest with
    | .operator "?" :: rest =>
      match ← choice fuel rest with
      | (b, .operator ":" :: rest) =>
        let (c, rest) ← choice fuel rest
        return (if a ≠ 0 then b else c, rest)
      | _ => throw .noOperand
    | _ => return (a, rest)

end

/-- The number that an expression stands for; an empty one is zero. -/
def evaluate (value : List Char → List Char) (expression : List Char) : Except Fault Int :=
  match items value 0 expression with
  | none => .error .noOperand
  | some [] => .ok 0
  | some row => do
    match ← choice (4 * row.length + 4) row with
    | (n, []) => return n
    | _ => throw .noOperand

end EnumForge.Shell.Arithmetic
