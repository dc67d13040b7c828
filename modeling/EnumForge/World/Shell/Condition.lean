import EnumForge.World.Shell.Session

namespace EnumForge.Shell.Condition

def number? (text : String) : Except String Int :=
  let cs := text.toList.dropWhile (· = ' ')
  let (minus, digits) :=
    match cs with
    | '-' :: ds => (true, ds)
    | '+' :: ds => (false, ds)
    | ds => (false, ds)
  if digits.isEmpty || !digits.all Char.isDigit then .error s!"Illegal number: {text}"
  else .ok (if minus then -(readNat digits : Int) else readNat digits)

/-- Whether a question about one text has the answer yes; none where it is no such question. -/
def question? (w : World) (op : String) : Option (String → Bool) :=
  let place := fun (path : String) =>
    match w.tree.locate w.cwd path with
    | .ok place => w.tree.get? place
    | .error _ => none
  let isFile := fun (e : Entry) => e != .directory
  match op with
  | "-n" => some fun a => !a.isEmpty
  | "-z" => some String.isEmpty
  | "-e" => some fun a => (place a).isSome || a = "/dev/null"
  | "-f" => some fun a => (place a).any isFile
  | "-d" => some fun a => (place a).any fun e => e == .directory
  | "-r" => some fun a => (place a).isSome
  | "-w" => some fun a => (place a).isSome
  | "-x" => some fun a => (place a).any fun e => match e with
    | .file _ executable => executable
    | .directory => true
  | "-s" => some fun a => (place a).any fun e => match e with
    | .file content _ => !content.isEmpty
    | .directory => true
  | "-t" => some fun _ => false
  | "-h" => some fun _ => false
  | "-L" => some fun _ => false
  | _ => none

/-- Whether a comparison holds; none where it is no comparison. -/
def comparison? (op : String) : Option (String → String → Except String Bool) :=
  let numbers : (Int → Int → Bool) → Option (String → String → Except String Bool) := fun p =>
    some fun a b => do return p (← number? a) (← number? b)
  match op with
  | "=" => some fun a b => .ok (a = b)
  | "!=" => some fun a b => .ok (a ≠ b)
  | "<" => some fun a b => .ok (a < b)
  | ">" => some fun a b => .ok (b < a)
  | "-eq" => numbers (· = ·)
  | "-ne" => numbers (· ≠ ·)
  | "-lt" => numbers (· < ·)
  | "-le" => numbers (· ≤ ·)
  | "-gt" => numbers (· > ·)
  | "-ge" => numbers (· ≥ ·)
  | _ => none

mutual

def someHold (w : World) : Nat → List String → Except String (Bool × List String)
  | 0, _ => .error "unexpected operator"
  | fuel + 1, args => do
    let (a, rest) ← allHold w fuel args
    match rest with
    | "-o" :: rest =>
      let (b, rest) ← someHold w fuel rest
      return (a || b, rest)
    | rest => return (a, rest)

def allHold (w : World) : Nat → List String → Except String (Bool × List String)
  | 0, _ => .error "unexpected operator"
  | fuel + 1, args => do
    let (a, rest) ← holds w fuel args
    match rest with
    | "-a" :: rest =>
      let (b, rest) ← allHold w fuel rest
      return (a && b, rest)
    | rest => return (a, rest)

def holds (w : World) : Nat → List String → Except String (Bool × List String)
  | 0, _ => .error "unexpected operator"
  | fuel + 1, args =>
    match args with
    | [] => .ok (false, [])
    | [a] => .ok (!a.isEmpty, [])
    | a :: op :: rest =>
      match comparison? op, rest with
      | some compare, b :: rest => do return (← compare a b, rest)
      | some _, [] => .error s!"{op}: argument expected"
      | none, _ =>
        if a = "!" then do
          let (b, rest) ← holds w fuel (op :: rest)
          return (!b, rest)
        else if a = "(" then do
          let (b, rest) ← someHold w fuel (op :: rest)
          match rest with
          | ")" :: rest => return (b, rest)
          | _ => throw "closing paren expected"
        else
          match question? w a with
          | some ask => .ok (ask op, rest)
          | none => .ok (!a.isEmpty, op :: rest)

end

/-- Whether arguments hold as a condition, or what is wrong with them. -/
def test (w : World) (args : List String) : Except String Bool := do
  let (b, rest) ← someHold w (4 * args.length + 4) args
  if rest.isEmpty then return b
  else
    let latest := args.getD (args.length - rest.length - 1) ""
    throw s!"{latest}: unexpected operator"

end EnumForge.Shell.Condition
