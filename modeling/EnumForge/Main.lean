import EnumForge.CommandLine

namespace EnumForge.Main

open EnumForge.Text

def readPlace (tree : Tree) (place : Place) : IO Tree := do
  let path := (← IO.currentDir) / placePath place
  if ← path.isDir then return tree.put place .directory
  try
    return tree.put place (.file (← IO.FS.readBinFile path).toList false)
  catch _ => return tree

/-- Looks at the places along a path. -/
def readPath (cwd : Place) (tree : Tree) (path : String) : IO Tree := do
  match Tree.Route.ofPath cwd path with
  | .error _ => return tree
  | .ok route =>
    let (tree, _) ← route.names.foldlM (fun (tree, place) name => do
      let place := Tree.step place name
      return (← readPlace tree place, place)) (tree, route.start)
    return tree

def readEnvironment : IO (List (String × String)) := do
  let bytes ← try pure (← IO.FS.readBinFile "/proc/self/environ").toList catch _ => pure []
  let entries := (String.ofList (ofUtf8Lossy bytes)).splitToList (· = '\x00')
  return entries.filterMap fun e =>
    if e.contains '=' then
      some (String.ofList (e.toList.takeWhile (· ≠ '=')),
        String.ofList ((e.toList.dropWhile (· ≠ '=')).drop 1))
    else none

/-- The surroundings as far as a run may need them: the directories above the current one with their
settings, the file that settings name for input, and where they put the output. -/
def readWorld : IO World := do
  let path := toString (← IO.currentDir)
  let cwd := (path.splitToList (· = '/')).filter (!·.isEmpty)
  let tree ← readPath cwd ⟨[]⟩ path
  let named := (Path.ancestors path).flatMap fun dir =>
    [Path.join dir ".env", Path.join dir Config.fileName]
  let tree ← named.foldlM (readPath cwd) tree
  let w : World := ⟨tree, cwd, ← readEnvironment⟩
  match (Run.configuration w).2.result with
  | .error _ => return w
  | .ok config =>
    let settings := config.resolved
    let tree ← [settings.inputPath, settings.outputPath].foldlM (readPath cwd) w.tree
    return { w with tree := tree }

/-- Makes a change that a run made. -/
def writeEntry (before : Tree) (change : Place × Entry) : IO Unit := do
  let (place, entry) := change
  if before.get? place = some entry then return
  match entry with
  | .directory => IO.FS.createDirAll (placePath place)
  | .file content _ => IO.FS.writeBinFile (placePath place) ⟨content.toArray⟩

end EnumForge.Main

open EnumForge

def main (args : List String) : IO UInt32 := do
  let w ← Main.readWorld
  let (tree, answer) := CommandLine.run args w
  tree.entries.reverse.forM (Main.writeEntry w.tree)
  (← IO.getStdout).putStr answer.stdout
  (← IO.getStderr).putStr answer.stderr
  return answer.status.toUInt32
