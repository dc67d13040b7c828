import EnumForge.World.Shell.Condition
import EnumForge.World.Shell.Expansion

namespace EnumForge.Shell

open EnumForge.Text

namespace Act

def statusOf (command text : String) : Act Nat :=
  if text.isNat then return readNat text.toList % 256
  else abort s!"{command}: Illegal number: {text}"

/-- Ends the script or a function, with a status that may be given. -/
def stopWith (command : String) (args : List String) (stop : Stop) : Act Unit := do
  match args with
  | [] => pure ()
  | text :: _ => setStatus (← statusOf command text)
  throw stop

/-- Leaves loops, or goes on with their next rounds; outside of loops it does nothing. -/
def leaveLoops (command : String) (args : List String) (stop : Nat → Stop) : Act Unit := do
  let loops ← match args with
    | [] => pure 1
    | text :: _ => statusOf command text
  setStatus 0
  let around := (← get).loops
  if around ≠ 0 then throw (stop (min loops around))

def signal? (text : String) : Option Signal :=
  if text.isNat then
    let n := readNat text.toList
    if n ≤ Signal.largest then some ⟨n⟩ else none
  else Signal.ofName? text

/-- The signal that the arguments of `kill` name, and the rest of them; or what is wrong. -/
def signalAndTargets : List String → Except String (Signal × List String)
  | "-s" :: name :: rest =>
    match signal? name with
    | some signal => .ok (signal, rest)
    | none => .error s!"invalid signal number or name: {name}"
  | first :: rest =>
    match first.toList with
    | '-' :: name =>
      match signal? (String.ofList name), name with
      | some signal, _ => .ok (signal, rest)
      | none, c :: _ => .error s!"Illegal option -{c}"
      | none, [] => .ok (.terminate, first :: rest)
    | _ => .ok (.terminate, first :: rest)
  | [] => .ok (.terminate, [])

def killUsage : String :=
  "Usage: kill [-s sigspec | -signum | -sigspec] [pid | job]... or\nkill -l [exitstatus]"

/-- Sends a signal to the script itself: it ends, passes the signal over, or does what it wants done
then. -/
def receive (signal : Signal) : Act Unit := do
  let action := (← get).traps.lookup (signal.name?.getD "")
  if signal = .kill then throw (.killed signal)
  else
    match action with
    | some action => modify fun s => { s with pending := s.pending ++ [action] }
    | none => if !signal.isPassedOver then throw (.killed signal)

def kill (args : List String) : Act Unit := do
  match signalAndTargets args with
  | .error text => fail 2 s!"kill: {text}"
  | .ok (_, []) => fail 2 s!"kill: {killUsage}"
  | .ok (signal, targets) =>
    setStatus 0
    for target in targets do
      if target = Session.processId then receive signal
      else if target.isNat then fail 1 "kill: No such process\n"
      else fail 2 s!"kill: Illegal number: {target}"

/-- The line at the head of bytes, whether it was ended, and what is left. A backslash at the end of
a line goes on with the next one, unless lines are taken as they are. -/
def lineAt (asIs : Bool) : Nat → List UInt8 → List UInt8 × Bool × List UInt8
  | 0, bytes => ([], false, bytes)
  | fuel + 1, bytes =>
    let line := bytes.takeWhile (· ≠ 10)
    match bytes.drop line.length with
    | [] => (line, false, [])
    | _ :: rest =>
      let slashes := (line.reverse.takeWhile (· = 92)).length
      if asIs || slashes % 2 = 0 then (line, true, rest)
      else
        let (more, ends, rest) := lineAt asIs fuel rest
        (line.dropLast ++ more, ends, rest)

/-- Marks of a line; what follows a backslash counts as quoted. -/
def lineMarks : List Char → List Mark
  | '\\' :: c :: cs => ⟨c, true⟩ :: lineMarks cs
  | c :: cs => ⟨c, false⟩ :: lineMarks cs
  | [] => []

/-- Gives names the fields of a line; the last name takes all that is left. -/
def bindFields (isSeparator : Mark → Bool) : List String → List Mark → Session → Session
  | [], _, s => s
  | [name], ms, s =>
    let ms := ms.dropWhile isSeparator
    s.bind name (String.ofList (plainText (ms.reverse.dropWhile isSeparator).reverse))
  | name :: names, ms, s =>
    let ms := ms.dropWhile isSeparator
    let field := ms.takeWhile (!isSeparator ·)
    bindFields isSeparator names ((ms.drop field.length).drop 1)
      (s.bind name (String.ofList (plainText field)))

def readLine (args : List String) : Act Unit := do
  let asIs := args.contains "-r"
  let names := args.filter fun a => !a.startsWith "-"
  if names.isEmpty then fail 2 "read: arg count"
  else
    let s ← get
    let (line, ends, rest) := lineAt asIs (s.unread.length + 1) s.unread
    let cs := ofUtf8Lossy line
    let marks : List Mark := if asIs then cs.map (⟨·, false⟩) else lineMarks cs
    let isSeparator := fun (m : Mark) => !m.isQuoted && m.char ∈ s.separators
    set (bindFields isSeparator names marks (s.leaveUnread rest))
    setStatus (if ends then 0 else 1)

def test (command : String) (args : List String) : Act Unit := do
  match Condition.test (← get).world args with
  | .ok holds => setStatus (if holds then 0 else 1)
  | .error text => fail 2 s!"{command}: {text}"

def shift (args : List String) : Act Unit := do
  let n ← match args with
    | [] => pure 1
    | text :: _ => statusOf "shift" text
  let s ← get
  if s.args.length < n then abort "shift: can't shift that many"
  else set { s with args := s.args.drop n, status := 0 }

def setOptions : List String → Act Unit
  | [] => setStatus 0
  | "--" :: args => modify fun s => { s with args := args, status := 0 }
  | first :: rest =>
    match first.toList with
    | '-' :: letters => do
      modify fun s =>
        { s with
          endsOnFailure := s.endsOnFailure || letters.contains 'e'
          refusesUnset := s.refusesUnset || letters.contains 'u'
          traces := s.traces || letters.contains 'x' }
      setOptions rest
    | '+' :: letters => do
      modify fun s =>
        { s with
          endsOnFailure := s.endsOnFailure && !letters.contains 'e'
          refusesUnset := s.refusesUnset && !letters.contains 'u'
          traces := s.traces && !letters.contains 'x' }
      setOptions rest
    | _ => modify fun s => { s with args := first :: rest, status := 0 }

def declare (args : List String) : Act Unit := do
  for a in args do
    let name := a.toList.takeWhile (· ≠ '=')
    if name.length < a.length then
      modify (·.bind (String.ofList name) (String.ofList (a.toList.drop (name.length + 1))))
  setStatus 0

/-- Keeps the values that parameters have outside of a function, and gives them values of its own. -/
def declareLocal (args : List String) : Act Unit := do
  let names := args.map fun a => String.ofList (a.toList.takeWhile (· ≠ '='))
  modify fun s => { s with outer := names.map (fun n => (n, s.bindings.lookup n)) ++ s.outer }
  declare args

def changeDirectory (args : List String) : Act Unit := do
  let s ← get
  let path := (args.head?.orElse fun _ => s.bindings.lookup "HOME").getD ""
  match if path.isEmpty then .ok s.world else s.world.changeDirectory path with
  | .ok w => set { (s.bind "OLDPWD" s.world.cwdPath).bind "PWD" w.cwdPath with
      world := w
      status := 0 }
  | .error _ => fail 2 s!"cd: can't cd to {path}"

def printFormatted : List String → Act Unit
  | [] => fail 2 "printf: usage: printf format [arg ...]"
  | format :: args => do
    match format.toList, args with
    | ['-', '-'], format :: args => write format args
    | '-' :: c :: _, _ => fail 2 s!"printf: Illegal option -{c}"
    | _, args => write format args
where
  write (format : String) (args : List String) : Act Unit := do
    let (bytes, faults) := formatted format args
    print 1 bytes
    setStatus 0
    for (status, fault) in faults do fail status s!"printf: {fault}"

/-- The name under which an action is kept: that of a signal, or of the end. -/
def trapName (text : String) : String :=
  if text = "0" then "EXIT"
  else ((signal? text).bind Signal.name?).getD (String.ofList (text.toList.map Char.toUpper))

def setTrap : List String → Act Unit
  | "--" :: args => setTrap args
  | [name] => modify fun s =>
    { s with traps := s.traps.filter fun t => t.1 ≠ trapName name, status := 0 }
  | action :: names => modify fun s =>
    let names := names.map trapName
    let others := s.traps.filter fun t => t.1 ∉ names
    { s with
      traps := if action = "-" then others else names.map (·, action) ++ others
      status := 0 }
  | [] => setStatus 0

end Act

/-- The command that a name stands for, if a shell carries it out itself. -/
def builtin? : String → Option (List String → Act Unit)
  | "exit" => some fun args => Act.stopWith "exit" args .left
  | "return" => some fun args => Act.stopWith "return" args .returned
  | "break" => some fun args => Act.leaveLoops "break" args .broken
  | "continue" => some fun args => Act.leaveLoops "continue" args .continued
  | "shift" => some Act.shift
  | "set" => some Act.setOptions
  | "export" => some Act.declare
  | "readonly" => some Act.declare
  | "local" => some Act.declareLocal
  | "unset" => some fun args => do
    for name in args do modify (·.unbind name)
    Act.setStatus 0
  | "trap" => some Act.setTrap
  | ":" => some fun _ => Act.setStatus 0
  | "true" => some fun _ => Act.setStatus 0
  | "false" => some fun _ => Act.setStatus 1
  | "wait" => some fun _ => Act.setStatus 0
  | "umask" => some fun _ => Act.setStatus 0
  | "echo" => some fun args => do
    Act.print 1 (echoed args)
    Act.setStatus 0
  | "printf" => some Act.printFormatted
  | "read" => some Act.readLine
  | "test" => some (Act.test "test")
  | "[" => some fun args =>
    if args.getLast? = some "]" then Act.test "[" args.dropLast else Act.fail 2 "[: missing ]"
  | "cd" => some Act.changeDirectory
  | "pwd" => some fun _ => do
    Act.print 1 (utf8 ((← get).world.cwdPath ++ "\n").toList)
    Act.setStatus 0
  | "kill" => some Act.kill
  | _ => none

/-- The commands whose assignments stay. -/
def keepsAssignments (name : String) : Bool :=
  name ∈ [":", ".", "break", "continue", "eval", "exec", "exit", "export", "readonly", "return",
    "set", "shift", "trap", "unset"]

end EnumForge.Shell
