import EnumForge.World.Shell.Command
import EnumForge.World.Shell.Print
import EnumForge.World.Signal
import EnumForge.World.State

namespace EnumForge.Shell

open EnumForge.Text

inductive Target
  | sink (index : Nat)
  | file (place : Place)
  | nowhere
deriving DecidableEq, Repr

/-- Why commands are not carried out in order: the script is left, a command is refused what it needs,
a function or some loops are left, or a signal ends all. -/
inductive Stop
  | left
  | refused
  | returned
  | broken (loops : Nat)
  | continued (loops : Nat)
  | killed (signal : Signal)
deriving DecidableEq, Repr

structure Session where
  name : String
  args : List String
  bindings : List (String × String)
  outer : List (String × Option String)
  functions : List (String × Command)
  traps : List (String × String)
  pending : List String
  endsOnFailure : Bool
  refusesUnset : Bool
  traces : Bool
  loops : Nat
  status : Nat
  line : Nat
  outputs : List (Nat × Target)
  input : Option Nat
  sinks : List (List UInt8)
  streams : List (List UInt8)
  world : World

/-- A part of a run of a script. -/
abbrev Act := EStateM Stop Session

namespace Session

/-- The number by which a script knows its own process. -/
def processId : String := "4242"

/-- A session that has done nothing. Sink 0 takes what is printed, and sink 1 what is reported. -/
def start (w : World) (name : String) (args : List String) (input : List UInt8) : Session where
  name := name
  args := args
  bindings := w.env
  outer := []
  functions := []
  traps := []
  pending := []
  endsOnFailure := false
  refusesUnset := false
  traces := false
  loops := 0
  status := 0
  line := 1
  outputs := [(1, .sink 0), (2, .sink 1)]
  input := some 0
  sinks := [[], []]
  streams := [input]
  world := w

/-- Adds bytes to what a target holds. -/
def emit (s : Session) (bytes : List UInt8) : Target → Session
  | .sink n => { s with sinks := s.sinks.modify n (· ++ bytes) }
  | .file place =>
    match s.world.tree.get? place with
    | some (.file content executable) =>
      let tree := s.world.tree.put place (.file (content ++ bytes) executable)
      { s with world := { s.world with tree := tree } }
    | _ => s
  | .nowhere => s

def unread (s : Session) : List UInt8 := (s.input.bind (s.streams[·]?)).getD []

def leaveUnread (s : Session) (bytes : List UInt8) : Session :=
  match s.input with
  | some n => { s with streams := s.streams.set n bytes }
  | none => s

def readFrom (s : Session) (bytes : List UInt8) : Session :=
  { s with streams := s.streams ++ [bytes], input := some s.streams.length }

def bind (s : Session) (name value : String) : Session :=
  { s with bindings := (name, value) :: s.bindings.filter fun b => b.1 ≠ name }

def unbind (s : Session) (name : String) : Session :=
  { s with bindings := s.bindings.filter fun b => b.1 ≠ name }

def rebind (s : Session) (name : String) : Option String → Session
  | some value => s.bind name value
  | none => s.unbind name

/-- What a session shares with one inside it is taken over from that one. -/
def takeOver (s inner : Session) : Session :=
  { s with
    status := inner.status
    sinks := inner.sinks
    streams := inner.streams
    world := { s.world with tree := inner.world.tree } }

end Session

namespace Act

def print (descriptor : Nat) (bytes : List UInt8) : Act Unit :=
  modify fun s => s.emit bytes ((s.outputs.lookup descriptor).getD .nowhere)

def setStatus (status : Nat) : Act Unit := modify fun s => { s with status := status }

/-- Reports what is wrong, with the name of the script and the line. -/
def complain (text : String) : Act Unit := do
  let s ← get
  print 2 (utf8 s!"{s.name}: {s.line}: {text}\n".toList)

def fail (status : Nat) (text : String) : Act Unit := do
  complain text
  setStatus status

def abort {α : Type} (text : String) : Act α := do
  fail 2 text
  throw .left

/-- Carries out a part of a script in a session of its own. Only a signal reaches further. -/
def apart (x : Act Unit) : Act Unit := do
  let outer ← get
  modify fun s => { s with traps := [], loops := 0 }
  try x catch
    | .killed signal => throw (.killed signal)
    | _ => pure ()
  modify outer.takeOver

/-- What a part of a script prints, carried out in a session of its own. -/
def captured (x : Act Unit) : Act (List UInt8) := do
  let n := (← get).sinks.length
  modify fun s => { s with sinks := s.sinks ++ [[]] }
  apart do
    modify fun s => { s with outputs := (1, .sink n) :: s.outputs }
    x
  return (← get).sinks.getD n []

/-- Why a file cannot be used; `absent` says that it is not there. -/
def reason (absent : String) : FileError → String
  | .missing => absent
  | .notDirectory => absent
  | e => e.reason

def openOutput (path : String) (append : Bool) : Act Target := do
  let s ← get
  if path = "/dev/null" then return .nowhere
  else if path = "/dev/stdout" then return (s.outputs.lookup 1).getD .nowhere
  else if path = "/dev/stderr" then return (s.outputs.lookup 2).getD .nowhere
  else
    let opened := do
      let tree ← s.world.tree.writeBytes s.world.cwd path append []
      return (tree, ← tree.locate s.world.cwd path)
    match opened with
    | .ok (tree, place) =>
      set { s with world := { s.world with tree := tree } }
      return .file place
    | .error e =>
      let cause := reason "Directory nonexistent" e
      fail 2 s!"cannot create {path}: {cause}"
      throw .refused

def openInput (path : String) : Act Unit := do
  let s ← get
  if path = "/dev/null" then set (s.readFrom [])
  else if path = "/dev/stdin" then pure ()
  else
    match s.world.tree.readBytes s.world.cwd path with
    | .ok bytes => set (s.readFrom bytes)
    | .error .isDirectory => set (s.readFrom [])
    | .error e =>
      let cause := reason "No such file" e
      fail 2 s!"cannot open {path}: {cause}"
      throw .refused

def copyDescriptor (descriptor : Nat) (source : String) : Act Unit := do
  let s ← get
  if source = "-" then
    if descriptor = 0 then set { s with input := none }
    else set { s with outputs := (descriptor, .nowhere) :: s.outputs }
  else if source.isNat then
    match s.outputs.lookup (source.toNat?.getD 0) with
    | some target => set { s with outputs := (descriptor, target) :: s.outputs }
    | none =>
      if descriptor = 0 then pure ()
      else
        fail 2 s!"{source}: Bad file descriptor"
        throw .refused
  else
    fail 2 "Syntax error: Bad fd number"
    throw .left

end Act

end EnumForge.Shell
