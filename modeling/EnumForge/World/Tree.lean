import EnumForge.Error
import EnumForge.Text.Utf8
import EnumForge.World.Path

namespace EnumForge

open EnumForge.Text

/-- Names from the root to a place. -/
abbrev Place := List String

/-- The path from the root to a place. -/
def placePath (place : Place) : String := "/" ++ "/".intercalate place

inductive Entry
  | file (content : List UInt8) (executable : Bool)
  | directory
deriving DecidableEq, Repr

/-- What stands at the places of a file system; the root is always a directory. -/
structure Tree where
  entries : List (Place × Entry)
deriving Repr

namespace Tree

def get? (tree : Tree) (place : Place) : Option Entry :=
  if place.isEmpty then some .directory else tree.entries.lookup place

def put (tree : Tree) (place : Place) (entry : Entry) : Tree :=
  ⟨(place, entry) :: tree.entries.filter fun e => e.1 ≠ place⟩

def remove (tree : Tree) (place : Place) : Tree := ⟨tree.entries.filter fun e => e.1 ≠ place⟩

def isDirectory (tree : Tree) (place : Place) : Bool := tree.get? place == some .directory

/-- A path ready to be followed: where it starts, its names, and whether it must end in a
directory. -/
structure Route where
  start : Place
  names : List String
  endsInDirectory : Bool

/-- How many bytes a path takes at most. -/
def maxPathSize : Nat := 4095

/-- How many bytes a name takes at most. -/
def maxNameSize : Nat := 255

/-- The route of a path from the current directory; the empty path leads nowhere. -/
def Route.ofPath (cwd : Place) (path : String) : Except FileError Route :=
  if path.toList.contains '\x00' then .error .holdsNul
  else if path.isEmpty then .error .missing
  else if maxPathSize < path.utf8ByteSize then .error .nameTooLong
  else
    let segments := Path.segments path.toList
    .ok
      { start := if Path.isAbsolute path then [] else cwd
        names := (segments.filter (!·.isEmpty)).map String.ofList
        endsInDirectory := segments.getLast?.any Path.isVoid }

/-- The place that one name leads to from a directory. -/
def step (place : Place) (name : String) : Place :=
  if name = "." then place else if name = ".." then place.dropLast else place ++ [name]

/-- Follows names; every place but the last one must be a directory that is there. -/
def follow (tree : Tree) (place : Place) : List String → Except FileError Place
  | [] => .ok place
  | name :: names =>
    match tree.get? place with
    | none => .error .missing
    | some (.file ..) => .error .notDirectory
    | some .directory =>
      if maxNameSize < name.utf8ByteSize then .error .nameTooLong
      else tree.follow (step place name) names

/-- The place that a path leads to, whether or not something stands there. -/
def locate (tree : Tree) (cwd : Place) (path : String) : Except FileError Place := do
  let route ← Route.ofPath cwd path
  let place ← tree.follow route.start route.names
  match tree.get? place with
  | some (.file ..) => if route.endsInDirectory then throw .notDirectory else return place
  | _ => return place

def isFile (tree : Tree) (cwd : Place) (path : String) : Bool :=
  match tree.locate cwd path with
  | .ok place => (tree.get? place).any fun e => e != .directory
  | .error _ => false

def readBytes (tree : Tree) (cwd : Place) (path : String) : Except FileError (List UInt8) := do
  match tree.get? (← tree.locate cwd path) with
  | none => throw .missing
  | some .directory => throw .isDirectory
  | some (.file content _) => return content

def readText (tree : Tree) (cwd : Place) (path : String) : Except FileError String := do
  match ofUtf8 (← tree.readBytes cwd path) with
  | .ok text => return String.ofList text
  | .error _ => throw .notText

def makeDirectory (tree : Tree) (cwd : Place) (path : String) : Except FileError Tree := do
  let route ← Route.ofPath cwd path
  let place ← tree.follow route.start route.names
  if (tree.get? place).isSome then throw .alreadyExists
  else if !tree.isDirectory place.dropLast then throw .missing
  else return tree.put place .directory

def isDirectoryAt (tree : Tree) (cwd : Place) (path : String) : Bool :=
  match tree.locate cwd path with
  | .ok place => tree.isDirectory place
  | .error _ => false

/-- Makes a directory and those above it that are missing; one that is there is left alone. The
tree that is reached is kept even when a later step fails. The fuel bounds the number of parents. -/
def makeDirectoriesFrom : Nat → Tree → Place → String → Tree × Except FileError Unit
  | 0, tree, _, _ => (tree, .error .missing)
  | fuel + 1, tree, cwd, path =>
    let settle := fun (tree : Tree) (e : FileError) =>
      if tree.isDirectoryAt cwd path then (tree, .ok ()) else (tree, .error e)
    if path.isEmpty then (tree, .ok ())
    else
      match tree.makeDirectory cwd path with
      | .ok tree => (tree, .ok ())
      | .error .missing =>
        match Path.parent? path with
        | none => (tree, .error (.other "failed to create whole tree"))
        | some parent =>
          match makeDirectoriesFrom fuel tree cwd parent with
          | (tree, .error e) => (tree, .error e)
          | (tree, .ok ()) =>
            match tree.makeDirectory cwd path with
            | .ok tree => (tree, .ok ())
            | .error e => settle tree e
      | .error e => settle tree e

/-- Makes a directory and those above it that are missing. -/
def makeDirectories (tree : Tree) (cwd : Place) (path : String) : Tree × Except FileError Unit :=
  makeDirectoriesFrom (path.length + 2) tree cwd path

/-- The place at which a file is written for a path. -/
def writablePlace (tree : Tree) (cwd : Place) (path : String) : Except FileError Place := do
  let route ← Route.ofPath cwd path
  let place ← tree.follow route.start route.names
  match tree.get? place with
  | some .directory => throw .isDirectory
  | some (.file ..) => if route.endsInDirectory then throw .notDirectory else return place
  | none =>
    match tree.get? place.dropLast with
    | some .directory => if route.endsInDirectory then throw .isDirectory else return place
    | some (.file ..) => throw .notDirectory
    | none => throw .missing

/-- Writes a file in full, or after what it holds already. -/
def writeBytes (tree : Tree) (cwd : Place) (path : String) (append : Bool) (bytes : List UInt8) :
    Except FileError Tree := do
  let place ← tree.writablePlace cwd path
  match tree.get? place with
  | some (.file content executable) =>
    return tree.put place (.file (if append then content ++ bytes else bytes) executable)
  | _ => return tree.put place (.file bytes false)

def removeFile (tree : Tree) (cwd : Place) (path : String) : Except FileError Tree := do
  let place ← tree.locate cwd path
  match tree.get? place with
  | none => throw .missing
  | some .directory => throw .isDirectory
  | some (.file ..) => return tree.remove place

end Tree

end EnumForge
