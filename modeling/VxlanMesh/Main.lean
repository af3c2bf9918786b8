/-
  VxlanMesh.Main
  ────────────────────────────────
  **THE DAEMON AS A PROGRAM.**

  The program looks up what a run depends on, runs the daemon and prints
  what can be seen of it.  The end of the standard input stands for the
  signal that asks to terminate.
-/
import VxlanMesh.Daemon.Run

namespace VxlanMesh.Daemon

/-- Put a file of the host into a tree, if there is one. -/
def loadFile (tree : FileTree) (path : String) : IO FileTree := do
  try
    let content ← IO.FS.readBinFile path
    let above := String.ofList ((path.toList.reverse.dropWhile (· ≠ '/')).reverse)
    let tree := (tree.createDirectories above).2
    return (tree.write path content).toOption.getD tree
  catch _ => return tree

/-- The files that a run may read: the configuration, and the registry in the directory that
the configuration names. -/
def loadFiles (given : Arguments) : IO FileTree := do
  let tree ← loadFile {} given.configPath
  match Config.ofFile tree given.configPath with
  | .ok config => loadFile tree (TableStore.path ⟨config.store.dir⟩ tenantTable)
  | .error _ => return tree

/-- The surroundings of a run with these arguments. -/
def surroundings (arguments : List String) : IO Surroundings := do
  let logVariable ← IO.getEnv "RUST_LOG"
  match Request.ofArguments arguments with
  | .serve given => do
      let files ← loadFiles given
      let _ ← (← IO.getStdin).readToEnd
      return { arguments, logVariable, files }
  | _ => return { arguments, logVariable }

end VxlanMesh.Daemon

/-- Run the daemon. -/
def main (arguments : List String) : IO UInt32 := do
  let report := VxlanMesh.Daemon.run (← VxlanMesh.Daemon.surroundings arguments)
  report.output.forM IO.println
  report.log.forM IO.println
  if report.complained then
    IO.eprintln (VxlanMesh.Daemon.name ++ ": the command line cannot be used")
  return ((report.exit.getD 137).toUInt32)
