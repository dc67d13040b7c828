import EnumForge.Text.Utf8

namespace EnumForge.Shell

open EnumForge.Text

/-- What an escape stands for. -/
inductive Escape
  | byte (b : UInt8)
  | stop
deriving DecidableEq, Repr

def octalValue (digits : List Char) : UInt8 :=
  UInt8.ofNat (digits.foldl (fun n d => 8 * n + (d.toNat - '0'.toNat)) 0)

/-- The octal digits at the head, three at most. -/
def octalDigits (s : List Char) : List Char := (s.take 3).takeWhile fun d => '0' ≤ d && d ≤ '7'

/-- Reads an escape after its backslash, and how many characters it takes. In an argument an octal
number begins with a zero that is not counted, and one escape ends the output. -/
def escape? (inArgument : Bool) (s : List Char) : Option (Escape × Nat) :=
  match s with
  | [] => none
  | c :: r =>
    match [('a', 7), ('b', 8), ('e', 27), ('f', 12), ('n', 10), ('r', 13), ('t', 9), ('v', 11),
        ('\\', 92)].lookup c with
    | some b => some (.byte b, 1)
    | none =>
      if inArgument then
        if c = 'c' then some (.stop, 1)
        else if c = '0' then some (.byte (octalValue (octalDigits r)), 1 + (octalDigits r).length)
        else none
      else if (octalDigits s).isEmpty then none
      else some (.byte (octalValue (octalDigits s)), (octalDigits s).length)

/-- Bytes of an argument with its escapes read, and whether the output goes on. -/
def argumentBytes : Nat → List Char → List UInt8 × Bool
  | _, [] => ([], true)
  | skip + 1, _ :: cs => argumentBytes skip cs
  | 0, c :: cs =>
    match if c = '\\' then escape? true cs else none with
    | some (.stop, _) => ([], false)
    | some (.byte b, n) =>
      let (bs, goesOn) := argumentBytes n cs
      (b :: bs, goesOn)
    | none =>
      let (bs, goesOn) := argumentBytes 0 cs
      (String.utf8EncodeChar c ++ bs, goesOn)

def echoed (args : List String) : List UInt8 :=
  let (ended, args) :=
    match args with
    | "-n" :: args => (false, args)
    | args => (true, args)
  let (bytes, goesOn) := argumentBytes 0 (" ".intercalate args).toList
  bytes ++ if ended && goesOn then [10] else []

/-- A width or a precision: a number, or the next argument. -/
inductive Extent
  | number (n : Nat)
  | argument
deriving DecidableEq, Repr

/-- A conversion: its flags, the least width, the precision, the letter, and all of its text. -/
structure Conversion where
  left : Bool
  zeros : Bool
  signed : Bool
  spaced : Bool
  alternate : Bool
  width : Extent
  precision : Option Extent
  letter : Char
  text : String

def readNat (s : List Char) : Nat := s.foldl (fun n d => 10 * n + (d.toNat - '0'.toNat)) 0

/-- The width or precision at the head, and the rest. -/
def extent (s : List Char) : Extent × List Char :=
  match s with
  | '*' :: r => (.argument, r)
  | _ =>
    let digits := s.takeWhile Char.isDigit
    (.number (readNat digits), s.drop digits.length)

/-- Reads a conversion after its percent sign, and how many characters it takes. -/
def conversion? (s : List Char) : Option (Conversion × Nat) :=
  let flags := s.takeWhile (· ∈ ['-', '0', '+', ' ', '#'])
  let (width, afterWidth) := extent (s.drop flags.length)
  let (precision, r) :=
    match afterWidth with
    | '.' :: r => let (precision, r) := extent r; (some precision, r)
    | r => (none, r)
  match r with
  | [] => none
  | letter :: r =>
    let size := s.length - r.length
    some (⟨flags.contains '-', flags.contains '0', flags.contains '+', flags.contains ' ',
      flags.contains '#', width, precision, letter, String.ofList ('%' :: s.take size)⟩, size)

/-- A conversion whose width and precision are numbers. -/
structure Settled where
  conversion : Conversion
  left : Bool
  width : Nat
  precision : Option Nat

def Settled.pad (c : Settled) (bytes : List UInt8) : List UInt8 :=
  let missing := List.replicate (c.width - bytes.length) 32
  if c.left then bytes ++ missing else missing ++ bytes

/-- The number at the head of a text as far as it goes: decimal, hexadecimal or octal; and the rest,
unless nothing of the text is a number. -/
def numberAt (text : List Char) : Int × Option (List Char) :=
  let (minus, r) := match text.dropWhile fun c => c = ' ' || c = '\t' || c = '\n' with
    | '-' :: r => (true, r)
    | '+' :: r => (false, r)
    | r => (false, r)
  let digit := fun (c : Char) =>
    if c.isDigit then c.toNat - '0'.toNat
    else if 'a' ≤ c ∧ c ≤ 'f' then c.toNat - 'a'.toNat + 10
    else if 'A' ≤ c ∧ c ≤ 'F' then c.toNat - 'A'.toNat + 10
    else 16
  let isHexadecimal := fun (r : List Char) => r.head?.any fun c => digit c < 16
  let (base, digits) := match r with
    | '0' :: 'x' :: r => if isHexadecimal r then (16, r) else (10, '0' :: 'x' :: r)
    | '0' :: 'X' :: r => if isHexadecimal r then (16, r) else (10, '0' :: 'X' :: r)
    | '0' :: r => (8, '0' :: r)
    | r => (10, r)
  let read := digits.takeWhile fun c => digit c < base
  let n : Nat := read.foldl (fun n c => base * n + digit c) 0
  (if minus then -(n : Int) else n, if read.isEmpty then none else some (digits.drop read.length))

/-- The whole number that an argument gives, and what is wrong with it. A quote stands before a
character whose code is meant. -/
def wholeNumber (isSigned : Bool) (arg : List Char) : Int × Option String :=
  match arg with
  | '\'' :: c :: _ => (c.toNat, none)
  | '"' :: c :: _ => (c.toNat, none)
  | [] => (0, none)
  | _ =>
    let (n, rest) := numberAt arg
    let (least, most) : Int × Int :=
      if isSigned then (-Int.pow 2 63, Int.pow 2 63 - 1)
      else (-(Int.pow 2 64 - 1), Int.pow 2 64 - 1)
    if n < least ∨ most < n then
      (if isSigned && n < 0 then least else most, some "Numerical result out of range")
    else
      match rest with
      | none => (0, some "expected numeric value")
      | some [] => (n, none)
      | some _ => (n, some "not completely converted")

/-- Digits of a whole number as a conversion writes them. -/
def Settled.number (c : Settled) (n : Int) : List UInt8 :=
  let letter := c.conversion.letter
  let isSigned := letter = 'd' ∨ letter = 'i'
  let magnitude := if isSigned then n.natAbs else (n % Int.pow 2 64).toNat
  let base := if letter = 'o' then 8 else if letter = 'x' ∨ letter = 'X' then 16 else 10
  let digits := Nat.toDigits base magnitude
  let digits := if letter = 'X' then digits.map Char.toUpper else digits
  let digits := List.replicate (c.precision.getD 1 - digits.length) '0' ++ digits
  let sign :=
    if isSigned then
      if n < 0 then ['-'] else if c.conversion.signed then ['+']
      else if c.conversion.spaced then [' '] else []
    else if c.conversion.alternate ∧ magnitude ≠ 0 then
      if letter = 'o' then ['0'] else if base = 16 then ['0', letter] else []
    else []
  let zeros :=
    if c.conversion.zeros && !c.left && c.precision.isNone then
      c.width - sign.length - digits.length
    else 0
  c.pad (utf8 (sign ++ List.replicate zeros '0' ++ digits))

/-- What has been printed, the arguments that are left, whether one has been used, whether the
output goes on, and what was wrong, with the status that it gives. -/
structure Printing where
  bytes : List UInt8
  args : List String
  used : Bool
  goesOn : Bool
  faults : List (Nat × String)

def Printing.take (p : Printing) : String × Printing :=
  match p.args with
  | [] => ("", p)
  | a :: rest => (a, { p with args := rest, used := true })

def Printing.emit (p : Printing) (bytes : List UInt8) : Printing :=
  { p with bytes := p.bytes ++ bytes }

def Printing.fault (p : Printing) (status : Nat) (text : String) : Printing :=
  { p with faults := p.faults ++ [(status, text)] }

def Printing.takeNumber (p : Printing) (isSigned : Bool) : Int × Printing :=
  let (arg, p) := p.take
  let (n, fault) := wholeNumber isSigned arg.toList
  (n, fault.elim p fun text => p.fault 1 s!"{arg}: {text}")

/-- The number that a width or precision is; it may be negative only as an argument. -/
def Printing.settle (p : Printing) : Extent → Int × Printing
  | .number n => (n, p)
  | .argument => p.takeNumber true

def Printing.convert (p : Printing) (c : Conversion) : Printing :=
  if c.text = "%%" then p.emit [37]
  else
    let (width, p) := p.settle c.width
    let (precision, p) :=
      match c.precision with
      | some e => let (n, p) := p.settle e; (if n < 0 then none else some n.toNat, p)
      | none => (none, p)
    let settled : Settled := ⟨c, c.left || width < 0, width.natAbs, precision⟩
    let cut := fun (bytes : List UInt8) => (precision.map bytes.take).getD bytes
    if c.letter = 's' then
      let (arg, p) := p.take
      p.emit (settled.pad (cut (utf8 arg.toList)))
    else if c.letter = 'c' then
      let (arg, p) := p.take
      p.emit (settled.pad [(utf8 arg.toList).headD 0])
    else if c.letter = 'b' then
      let (arg, p) := p.take
      let (bytes, goesOn) := argumentBytes 0 arg.toList
      { p.emit (settled.pad (cut bytes)) with goesOn := goesOn }
    else if c.letter ∈ ['d', 'i', 'o', 'u', 'x', 'X'] then
      let (n, p) := p.takeNumber (c.letter = 'd' || c.letter = 'i')
      p.emit (settled.number n)
    else { p.fault 2 s!"{c.text}: invalid directive" with goesOn := false }

def formatOnce : Nat → Printing → List Char → Printing
  | _, p, [] => p
  | skip + 1, p, _ :: cs => formatOnce skip p cs
  | 0, p, c :: cs =>
    if !p.goesOn then p
    else if c = '\\' then
      match escape? false cs with
      | some (.byte b, n) => formatOnce n (p.emit [b]) cs
      | _ => formatOnce 0 (p.emit [92]) cs
    else if c = '%' then
      match conversion? cs with
      | some (conversion, n) => formatOnce n (p.convert conversion) cs
      | none => { p.fault 2 "missing format character" with goesOn := false }
    else formatOnce 0 (p.emit (String.utf8EncodeChar c)) cs

/-- Goes through a format until no argument is left; each round but the first uses one. -/
def formatRounds : Nat → List Char → Printing → Printing
  | 0, _, p => p
  | rounds + 1, format, p =>
    let p := formatOnce 0 { p with used := false } format
    if p.goesOn && p.used && !p.args.isEmpty then formatRounds rounds format p else p

/-- What a format prints with some arguments, and what was wrong with them. -/
def formatted (format : String) (args : List String) : List UInt8 × List (Nat × String) :=
  let p := formatRounds (args.length + 1) format.toList ⟨[], args, false, true, []⟩
  (p.bytes, p.faults)

end EnumForge.Shell
