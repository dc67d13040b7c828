import EnumForge.World.Tree

namespace EnumForge

/-- Files, current directory and environment variables. -/
structure World where
  tree : Tree
  cwd : Place
  env : List (String × String)

namespace World

def variableValue? (w : World) (name : String) : Option String := w.env.lookup name

/-- Whether the environment can hold a variable: an entry is its name, an equals sign and its value,
up to a character that ends it. -/
def isSettable (name value : String) : Bool :=
  !name.isEmpty && !name.toList.contains '=' && !name.toList.contains '\x00' &&
    !value.toList.contains '\x00'

def setVariable (w : World) (name value : String) : World :=
  { w with env := (name, value) :: w.env.filter fun e => e.1 ≠ name }

def unsetVariable (w : World) (name : String) : World :=
  { w with env := w.env.filter fun e => e.1 ≠ name }

/-- Text of the path of the current directory. -/
def cwdPath (w : World) : String := placePath w.cwd

/-- Goes to another directory, if there is one. -/
def changeDirectory (w : World) (path : String) : Except FileError World := do
  let place ← w.tree.locate w.cwd path
  match w.tree.get? place with
  | some .directory => return { w with cwd := place }
  | some (.file ..) => throw .notDirectory
  | none => throw .missing

def isFile (w : World) (path : String) : Bool := w.tree.isFile w.cwd path

def readText (w : World) (path : String) : Except FileError String := w.tree.readText w.cwd path

end World

end EnumForge
