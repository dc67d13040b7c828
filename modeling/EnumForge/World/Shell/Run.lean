import EnumForge.Format.External
import EnumForge.World.Shell.Builtin
import EnumForge.World.Shell.Utility

/-!
Running shell scripts. Commands are carried out one after the other; what they print, read and write
is the state of the session. The fuel bounds how deep commands stand in commands and how often loops
are gone through.
-/

namespace EnumForge.Shell

open EnumForge.Text EnumForge.External

namespace Act

/-- Ends the script where a command failed that was not asked whether it does. -/
def checkFailure (isTested : Bool) : Act Unit := do
  let s ← get
  if s.endsOnFailure && !isTested && s.status ≠ 0 then throw .left

def redirect (output : List Char → Act (List Char)) (redirects : List Redirect) : Act Unit := do
  for r in redirects do
    match r.sort with
    | .read => openInput (← text output r.target)
    | .write =>
      let target ← openOutput (← text output r.target) false
      modify fun s => { s with outputs := (r.descriptor, target) :: s.outputs }
    | .append =>
      let target ← openOutput (← text output r.target) true
      modify fun s => { s with outputs := (r.descriptor, target) :: s.outputs }
    | .copy => copyDescriptor r.descriptor (← text output r.target)
    | .document body isOpen =>
      let word := if isOpen then quotedFragments ['\\', '$', '\x60'] 0 body else [.quoted body]
      let content ← text output word
      modify (·.readFrom (utf8 content.toList))

/-- Carries out a command with its redirections, and takes them back; what cannot be opened keeps it
from being carried out. -/
def redirected (output : List Char → Act (List Char)) (redirects : List Redirect) (x : Act Unit) :
    Act Unit := do
  let before ← get
  let takeBack := modify fun s => { s with outputs := before.outputs, input := before.input }
  try
    redirect output redirects
    x
  catch
    | .refused => pure ()
    | stop => do takeBack; throw stop
  takeBack

def trace (words : List String) : Act Unit := do
  if (← get).traces then print 2 (utf8 ("+ " ++ " ".intercalate words ++ "\n").toList)

def assign (output : List Char → Act (List Char)) (assigned : List (String × Word)) :
    Act Unit := do
  for (name, value) in assigned do
    let value ← text output value
    trace [name ++ "=" ++ value]
    modify (·.bind name value)

/-- What a path leads to when it is started as a command. -/
inductive Found
  | utility (utility : Utility)
  | script (text : List Char)
  | refused (status : Nat) (reason : String)

def atPath (w : World) (path : String) : Found :=
  let absent := (Utility.ofPath? path).elim (.refused 127 "not found") .utility
  match w.tree.locate w.cwd path with
  | .error .missing => absent
  | .error .notDirectory => .refused 127 "not found"
  | .error e => .refused 126 e.reason
  | .ok place =>
    match w.tree.get? place with
    | some (.file content true) => .script (ofUtf8Lossy content)
    | some _ => .refused 126 "Permission denied"
    | none => absent

/-- The program that a name stands for, in the directories of the search path. -/
def findProgram (s : Session) (name : String) : String × Found :=
  if name.toList.contains '/' then (name, atPath s.world name)
  else
    let dirs := ((s.bindings.lookup "PATH").getD "/usr/bin:/bin").splitToList (· = ':')
    let found := dirs.findSome? fun dir =>
      let path := Path.join (if dir.isEmpty then "." else dir) name
      match atPath s.world path with
      | .refused .. => none
      | found => some (path, found)
    found.getD (name, .refused 127 "not found")

def useUtility (name : String) (args : List String) (utility : Utility) : Act Unit := do
  let s ← get
  let effect := utility.run s.world name args s.unread
  set (s.leaveUnread effect.unread)
  print 1 effect.stdout
  print 2 effect.stderr
  setStatus effect.status

end Act

open Act

mutual

/-- Carries out a command; `isTested` says that something depends on whether it fails. -/
def execute : Nat → Bool → Command → Act Unit
  | 0, _, _ => throw .left
  | fuel + 1, isTested, c => do
    let output := fun script => printed fuel script
    match c with
    | .nothing => setStatus 0
    | .inOrder first second =>
      execute fuel isTested first
      execute fuel isTested second
    | .onSuccess first second =>
      execute fuel true first
      if (← get).status = 0 then execute fuel isTested second
    | .onFailure first second =>
      execute fuel true first
      if (← get).status ≠ 0 then execute fuel isTested second
    | .inverted body =>
      execute fuel true body
      setStatus (if (← get).status = 0 then 1 else 0)
    | .piped first second =>
      let bytes ← captured (execute fuel isTested first)
      let input := (← get).input
      modify (·.readFrom bytes)
      apart (execute fuel isTested second)
      modify fun s => { s with input := input }
      checkFailure isTested
    | .aside body =>
      let input := (← get).input
      modify (·.readFrom [])
      apart (execute fuel true body)
      modify fun s => { s with input := input, status := 0 }
    | .inside body =>
      apart (execute fuel isTested body)
      checkFailure isTested
    | .redirected line body redirects =>
      modify fun s => { s with line := line }
      redirected output redirects (execute fuel isTested body)
    | .choice condition yes no =>
      execute fuel true condition
      if (← get).status = 0 then execute fuel isTested yes else execute fuel isTested no
    | .loop whileFails condition body => repeatWhile fuel isTested whileFails condition body 0
    | .each name words body =>
      let values ← words.flatMapM (fields output)
      setStatus 0
      repeatFor fuel isTested name body values
    | .selection subject arms =>
      let subject ← text output subject
      selectArm fuel isTested subject arms
    | .function name body =>
      modify fun s => { s with functions := (name, body) :: s.functions, status := 0 }
    | .simple line words redirects =>
      modify fun s => { s with line := line }
      let assigned := words.takeWhile fun w => (assignment? w).isSome
      match words.drop assigned.length with
      | [] =>
        let isPlain := words.all fun w => w.all fun f => match f with
          | .output .. => false
          | _ => true
        redirected output redirects (assign output (assigned.filterMap assignment?))
        if isPlain then setStatus 0
      | rest =>
        match ← rest.flatMapM (fields output) with
        | [] => setStatus 0
        | ["exec"] => redirect output redirects
        | name :: args =>
          let assigned := assigned.filterMap assignment?
          let before := (← get).bindings
          redirected output redirects do
            assign output assigned
            trace (name :: args)
            call fuel isTested name args
          if !keepsAssignments name then
            modify fun s =>
              assigned.foldl (fun s (name, _) => s.rebind name (before.lookup name)) s
      runPending fuel
      checkFailure isTested

/-- Does what is wanted at the signals that came in; the status stays. -/
def runPending : Nat → Act Unit
  | 0 => throw .left
  | fuel + 1 => do
    let s ← get
    set { s with pending := [] }
    for action in s.pending do runTokens fuel false (tokens action.toList)
    if !s.pending.isEmpty then setStatus s.status

/-- Goes through a loop while its condition holds or fails; `status` is that of the last round. -/
def repeatWhile : Nat → Bool → Bool → Command → Command → Nat → Act Unit
  | 0, _, _, _, _, _ => throw .left
  | fuel + 1, isTested, whileFails, condition, body, status => do
    execute fuel true condition
    if ((← get).status ≠ 0) = whileFails then
      let goesOn ← round fuel isTested body
      if goesOn then
        repeatWhile fuel isTested whileFails condition body (← get).status
    else setStatus status

def repeatFor : Nat → Bool → String → Command → List String → Act Unit
  | 0, _, _, _, _ => throw .left
  | _ + 1, _, _, _, [] => pure ()
  | fuel + 1, isTested, name, body, value :: values => do
    modify (·.bind name value)
    let goesOn ← round fuel isTested body
    if goesOn then repeatFor fuel isTested name body values

/-- Carries out the body of a loop, and tells whether the loop goes on. -/
def round : Nat → Bool → Command → Act Bool
  | 0, _, _ => throw .left
  | fuel + 1, isTested, body => do
    let around := (← get).loops
    let leave := modify fun s => { s with loops := around }
    modify fun s => { s with loops := around + 1 }
    try
      execute fuel isTested body
      leave
      return true
    catch stop => do
      leave
      match stop with
      | .broken n => if n ≤ 1 then return false else throw (.broken (n - 1))
      | .continued n => if n ≤ 1 then return true else throw (.continued (n - 1))
      | stop => throw stop

/-- Carries out the first arm of which a pattern fits. -/
def selectArm : Nat → Bool → String → List (List Word × Command) → Act Unit
  | 0, _, _, _ => throw .left
  | _ + 1, _, _, [] => setStatus 0
  | fuel + 1, isTested, subject, (patterns, body) :: arms => do
    let matchers ← patterns.mapM (pattern fun script => printed fuel script)
    if matchers.any fun ms => fits ms subject.toList then execute fuel isTested body
    else selectArm fuel isTested subject arms

def call : Nat → Bool → String → List String → Act Unit
  | 0, _, _, _ => throw .left
  | fuel + 1, isTested, name, args => do
    let s ← get
    match s.functions.lookup name with
    | some body =>
      set { s with args := args, loops := 0, outer := [] }
      try execute fuel isTested body catch
        | .returned => pure ()
        | stop => throw stop
      modify fun after =>
        let after := after.outer.foldr (fun (name, value) s => s.rebind name value) after
        { after with args := s.args, loops := s.loops, outer := s.outer }
    | none =>
      match builtin? name with
      | some run => run args
      | none =>
        match name, args with
        | "eval", args => runTokens fuel isTested (tokens (" ".intercalate args).toList)
        | "command", next :: args => call fuel isTested next args
        | "exec", next :: args =>
          call fuel isTested next args
          throw .left
        | ".", path :: _ =>
          match s.world.readText path with
          | .ok text => runTokens fuel isTested (tokens text.toList)
          | .error _ => abort s!".: cannot open {path}: No such file"
        | name, args =>
          match findProgram s name with
          | (_, .utility utility) => useUtility name args utility
          | (_, .refused status reason) => fail status s!"{name}: {reason}"
          | (path, .script text) =>
            apart do
              modify fun s =>
                { s with name := path, args := args, functions := [], endsOnFailure := false }
              runTokens fuel false (tokens text)

def runTokens : Nat → Bool → Tokens → Act Unit
  | 0, _, _ => throw .left
  | fuel + 1, isTested, ts =>
    match next? ts with
    | .error mistake => do
      modify fun s => { s with line := mistake.line }
      abort s!"Syntax error: {mistake.text}"
    | .ok none => pure ()
    | .ok (some (c, ts)) => do
      execute fuel isTested c
      runTokens fuel isTested ts

/-- What a script prints, without the ends of lines at its end. -/
def printed : Nat → List Char → Act (List Char)
  | 0, _ => throw .left
  | fuel + 1, script => do
    let bytes ← captured (runTokens fuel false (tokens script))
    return ((ofUtf8Lossy bytes).reverse.dropWhile (· = '\n')).reverse

end

/-- How deep commands may stand in commands, and how often loops may be gone through. -/
def fuel : Nat := 20000

/-- Runs a script to its end, with what it wants done there. -/
def runToEnd (script : List Char) : Act Unit := do
  try runTokens fuel false (tokens script) catch
    | .killed signal => throw (.killed signal)
    | _ => pure ()
  let s ← get
  match s.traps.lookup "EXIT" with
  | some action =>
    set { s with traps := [] }
    runTokens fuel false (tokens action.toList)
    modify fun after => { after with status := s.status }
  | none => pure ()

def Session.outcome (s : Session) (stop : Option Stop) : Outcome × World :=
  let stdout := s.sinks.getD 0 []
  let stderr := s.sinks.getD 1 []
  let outcome :=
    match stop with
    | some (.killed signal) => Outcome.killed signal stderr
    | _ => Outcome.exited s.status stdout stderr
  (outcome, s.world)

/-- Runs the text of a script under a name, with options, arguments and input: how it ends, and the
surroundings that it leaves. -/
def run (w : World) (script : List Char) (name : String) (options args : List String)
    (input : List UInt8) : Outcome × World :=
  let act := do
    setOptions options
    set { ← get with args := args }
    runToEnd script
  let (outcome, after) :=
    match act.run (.start w name args input) with
    | .ok _ s => s.outcome none
    | .error stop s => s.outcome (some stop)
  (outcome, { w with tree := after.tree })

end EnumForge.Shell
