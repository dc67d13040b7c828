import EnumForge.World.State

namespace EnumForge.World

open EnumForge.Text

/-- Writes a text to a file of a directory, which is made first if it is missing. -/
def writeLog (w : World) (dir name text : String) (append : Bool) : World :=
  let tree := (w.tree.makeDirectories w.cwd dir).1
  match tree.writeBytes w.cwd (Path.join dir name) append (utf8 text.toList) with
  | .ok tree => { w with tree := tree }
  | .error _ => { w with tree := tree }

def logVariable : String := "ENUMGEN_LOG_DIR"

/-- Keeps a text as a line of a file, if the environment names a directory for that. Files that are
named for the time of day are left out. -/
def log (w : World) (name text : String) (append : Bool) : World :=
  match w.variableValue? logVariable with
  | none => w
  | some dir => w.writeLog dir name (text ++ "\n") append

end EnumForge.World
