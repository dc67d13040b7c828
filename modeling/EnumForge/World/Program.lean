import EnumForge.World.Shell.Run

namespace EnumForge.Program

open EnumForge.Text EnumForge.External

/-- A program that can be started: one that every system has, with arguments of its own before the
others, a script with options for the shell that reads it, or one that only reports a fault. -/
inductive Executable
  | utility (name : String) (utility : Utility) (first : List String)
  | script (text : List Char) (path : String) (options : List String)
  | faulty (status : Nat) (report : String)

/-- Shells that can read a script. -/
def shells : List String := ["/bin/sh", "/bin/dash", "/bin/bash", "/usr/bin/sh", "/usr/bin/dash"]

/-- The program that the first line of a file names, and the argument that it gives it. -/
def interpreter? (text : List Char) : Option (String × Option String) :=
  match text with
  | '#' :: '!' :: r =>
    let isBlank := fun c => c = ' ' || c = '\t'
    let line := (r.takeWhile (· ≠ '\n')).dropWhile isBlank
    let name := line.takeWhile (!isBlank ·)
    let rest := ((line.drop name.length).dropWhile isBlank).reverse.dropWhile isBlank
    if name.isEmpty then none
    else some (String.ofList name, if rest.isEmpty then none else some (String.ofList rest.reverse))
  | _ => none

def searchPath (w : World) : List String :=
  ((w.variableValue? "PATH").getD "/bin:/usr/bin").splitToList (· = ':')

/-- The script whose shell is looked up by name. The name is the whole argument; where words are to be
split, it is the first of them. -/
def lookedUp (w : World) (finder argument : String) (text : List Char) (path : String) :
    Executable :=
  let splits := argument.startsWith "-S"
  let words := ((if splits then argument.toList.drop 2 else []).splitOn ' ').filter (!·.isEmpty)
  let name := if splits then String.ofList (words.headD []) else argument
  let isFound :=
    if name.toList.contains '/' then name ∈ shells
    else (searchPath w).any fun dir => Path.join dir name ∈ shells
  if isFound then .script text path ((words.drop 1).map String.ofList)
  else
    let advice :=
      if name.toList.contains ' ' then
        s!"{finder}: use -[v]S to pass options in shebang lines\n"
      else ""
    .faulty 127 s!"{finder}: '{name}': No such file or directory\n{advice}"

def ofFile (w : World) (path : String) (text : List Char) : Except FileError Executable :=
  match interpreter? text with
  | none => .error .notProgram
  | some (name, argument) =>
    if name ∈ shells then .ok (.script text path argument.toList)
    else if name ∈ ["/usr/bin/env", "/bin/env"] then .ok (lookedUp w name (argument.getD "") text path)
    else
      match Utility.ofPath? name with
      | some utility => .ok (.utility name utility (argument.toList ++ [path]))
      | none => .error .missing

/-- The program that a path leads to, or why it cannot be started. -/
def load (w : World) (path : String) : Except FileError Executable :=
  let absent :=
    (Utility.ofPath? path).elim (.error .missing) fun utility => .ok (.utility path utility [])
  match w.tree.locate w.cwd path with
  | .error .missing => absent
  | .error e => .error e
  | .ok place =>
    match w.tree.get? place with
    | none => absent
    | some .directory => .error .permission
    | some (.file _ false) => .error .permission
    | some (.file content true) => ofFile w path (ofUtf8Lossy content)

/-- The program of the first directory that has one, or why none can be started. Only a file that is
missing or may not be run lets the search go on. -/
def search (w : World) (name : String) (found : FileError) :
    List String → Except FileError Executable
  | [] => .error found
  | dir :: dirs =>
    match load w (Path.join (if dir.isEmpty then "." else dir) name) with
    | .ok program => .ok program
    | .error .permission => search w name .permission dirs
    | .error .missing => search w name found dirs
    | .error .notDirectory => search w name found dirs
    | .error e => .error e

def find (w : World) (program : String) : Except FileError Executable :=
  if program.isEmpty then .error .missing
  else if program.toList.contains '/' then load w program
  else search w program .missing (searchPath w)

/-- Runs a program with arguments and input: how it ends, and the surroundings that it leaves. -/
def Executable.run (w : World) (args : List String) (input : List UInt8) :
    Executable → Outcome × World
  | .script text path options => Shell.run w text path options args input
  | .faulty status report => (.exited status [] (utf8 report.toList), w)
  | .utility name program first =>
    let effect := program.run w name (first ++ args) input
    (.exited effect.status effect.stdout effect.stderr, w)

/-- Finds and runs a program; no name or argument may hold the character that ends them. -/
def start (w : World) (program : String) (args : List String) (input : List UInt8) :
    Outcome × World :=
  if (program :: args).any fun s => s.toList.contains '\x00' then
    (.notStarted (.other "nul byte found in provided data"), w)
  else
    match find w program with
    | .error e => (.notStarted e, w)
    | .ok executable => executable.run w args input

/-- The formatter that runs a program of these surroundings. -/
def formatter (w : World) (program edition : String) : Formatter :=
  External.formatter program fun input => (start w program (External.arguments edition) input).1

/-- The surroundings after a program has formatted a text. -/
def afterFormatting (w : World) (program edition source : String) : World :=
  (start w program (External.arguments edition) (utf8 source.toList)).2

/-- The program that formats: the environment may name one. -/
def formatterProgram (w : World) : String :=
  (w.variableValue? "RUSTFMT").getD External.defaultProgram

end EnumForge.Program
