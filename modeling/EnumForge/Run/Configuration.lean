import EnumForge.Config.File
import EnumForge.Run.Basic
import EnumForge.World.EnvironmentFile

namespace EnumForge

/-- The configuration file of the nearest directory that has one, from `start` upward. -/
def World.findConfig? (w : World) (start : String) : Option String :=
  ((Path.ancestors start).map fun dir => Path.join dir Config.fileName).find? w.isFile

def Config.ofPath (w : World) (path : String) : Checked Error Config :=
  match w.readText path with
  | .error e => .error (.config s!"failed to read {path}: {e.message}")
  | .ok text => Config.ofText w.variableValue? text ((Path.parent? path).getD "")

def Config.near (w : World) (start : String) : Checked Error Config :=
  match w.findConfig? start with
  | some path => Config.ofPath w path
  | none => .ok (Config.defaultsIn start)

namespace Run

/-- Sets the variables that the nearest `.env` file gives. -/
def loadVariables : Run Unit := fun w =>
  match EnvironmentFile.load w with
  | .ok w => (w, .ok ())
  | .error name => (w, .error (.unsettable name))

/-- The configuration for the current directory. The directory is looked up once the variables have
been loaded. -/
def configuration : Run Config := do
  loadVariables
  let start := (← world).cwdPath
  reporting (Config.near (← world) start)

def settingsOfPath (w : World) (path : String) : Checked Error Settings := do
  return (← Config.ofPath w path).resolved

/-- Settings from the configuration file nearest to a directory, or the defaults there. -/
def settingsNear (w : World) (start : String) : Run Settings :=
  match w.findConfig? start with
  | some path => reporting (settingsOfPath w path)
  | none => return (Config.defaultsIn start).resolved

/-- Settings for a directory, which is determined before any variable is loaded. -/
def settingsFor (start : World → String) : Run Settings := do
  let start := start (← world)
  loadVariables
  settingsNear (← world) start

/-- The directory that a build starts from: the one its environment names, or the current one. -/
def buildDirectory (w : World) : String := (w.variableValue? "CARGO_MANIFEST_DIR").getD w.cwdPath

def buildSettings : Run Settings := settingsFor buildDirectory

end Run

end EnumForge
