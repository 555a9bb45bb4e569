import FactStore.Packages

/-
  This file connects the command line to the machine: it
  takes up the files that a command needs, carries the
  command out, and writes back the files that changed.

  Key definitions include:
    * `Main.takeUp`
    * `Main.writeBack`
    * `Main.carryOut`
    * `main`
-/

namespace FactStore

namespace Main

------------------------------------------------------------
-- Files
------------------------------------------------------------

/- Add what a path leads to, if it leads to anything. -/
def takeUpOne
    (tree : FileTree)
    (path : String) : IO FileTree := do
  let full := (← IO.currentDir) / path
  if ← full.isDir then
    return tree.addDirectory path
  else if ← full.pathExists then
    return tree.addFile path (← IO.FS.readBinFile full)
  else
    return tree

/- Add what paths and the directories above them lead to. -/
def takeUp
    (tree : FileTree)
    (paths : List String) : IO FileTree := do
  let above := paths.map FilePath.directoryOf
  (above ++ paths).foldlM takeUpOne tree

/- A path from the working directory and from those above it. -/
def fromAbove
    (directory : List String)
    (path : String) : List String :=
  if FilePath.isAbsolute path then [path]
  else
    (List.range (directory.length + 1)).map fun up =>
      String.join (List.replicate up "../") ++ path

/- Write the files whose content changed. -/
def writeBack (before after : FileTree) : IO Unit := do
  for (place, content) in after.files do
    if (before.files.lookup place).map (·.data) ≠ some content.data then
      IO.FS.writeBinFile (FilePath.textOf place) content

------------------------------------------------------------
-- Environment
------------------------------------------------------------

/- The names on the way to the working directory. -/
def workingDirectory : IO (List String) := do
  let names := FilePath.parts (← IO.currentDir).toString
  return names.filter fun name => name ≠ ""

/- The variables that settings and the log are given by. -/
def variableNames : List String :=
  LogFilter.variableName ::
    ["PROGRAM", "PROGRAM__INPUT_DIR", "PROGRAM__OUTPUT_DIR",
      "PROGRAM__NUM_THREADS", "PROGRAM__STRATUM", "LOGGING",
      "LOGGING__LEVEL", "LOGGING__FORMAT"].map
        (Settings.variablePrefix ++ ·)

/- The variables that are set, with their texts. -/
def environment : IO Environment := do
  let found ← variableNames.mapM fun name => do
    return (← IO.getEnv name).map fun text => (name, text)
  return found.filterMap id

------------------------------------------------------------
-- Reports
------------------------------------------------------------

/- How the program is used. -/
def usage : String :=
  "Usage: factlayer [--config FILE] list | describe NAME | run NAME\n"

/- What is reported about an ending, if anything is. -/
def reportOf : CommandLine.Ending → String
| .success => ""
| .failed report => report.render
| .violated v => v.message ++ "\n"
| .exited code => if code = 0 then "" else usage

------------------------------------------------------------
-- Commands
------------------------------------------------------------

/-
  Carry out the command that the arguments ask for, with the
  registry of a new process.
-/
def carryOut
    (arguments : List String) : IO CommandLine.Ending := do
  let directory ← workingDirectory
  let environment ← environment
  let packages := CommandLine.Packages.standard directory usage
  let registry : Registry Empty := .untouched
  let tree ←
    match packages.arguments arguments with
    | .error _ => pure .empty
    | .ok invocation => do
        let config := CommandLine.configFiles invocation
        let tree ←
          takeUp .empty (config.flatMap (fromAbove directory))
        takeUp tree
          (CommandLine.factFiles Host.none packages registry
            environment tree invocation)
  let result :=
    CommandLine.execute Host.none packages registry arguments
      environment tree
  writeBack tree result.files
  IO.print result.printed
  return result.ending

end Main

end FactStore

open FactStore in
/- Carry out a command as a process of its own. -/
def main (arguments : List String) : IO UInt32 := do
  let ending ← Main.carryOut arguments
  IO.eprint (Main.reportOf ending)
  return UInt32.ofNat ending.code
