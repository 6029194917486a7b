import Runbook.CommandLine.Run

/-!
# The program

The files that a run works on are those whose paths stand on standard input, one a line: regular
files with their content, and directories. All else is given by the arguments and the variables
of the process. No service is reached from here.
-/

namespace Runbook

/-- The lines of standard input. -/
partial def readLines (input : IO.FS.Stream) : IO (List String) := do
  let line ← input.getLine
  if line.isEmpty then return []
  return String.ofList (Text.trim line.toList) :: (← readLines input)

/-- What stands at a path. What cannot be read as a file counts as a directory. -/
def readEntry (path : String) : IO FileTree := do
  try
    return .file (String.fromUTF8? (← IO.FS.readBinFile path))
  catch _ => return .directory []

/-- The files at some paths. -/
def readFiles (paths : List String) : IO Files :=
  paths.foldlM (fun files path => do
    if files.isDirectory ⟨path⟩ then return files
    return files.put ⟨path⟩ (← readEntry path)) (Files.under "current" (.directory []))

/-- The variables of the process that matter. -/
def readEnvironment : IO Environment := do
  let entries ← Settings.variableNames.filterMapM fun name => do
    return (← IO.getEnv name).map fun value => (name, value)
  return ⟨Table.ofList entries⟩

end Runbook

/-- Run the program. -/
def main (arguments : List String) : IO UInt32 := do
  let files ← Runbook.readFiles (← Runbook.readLines (← IO.getStdin))
  let environment ← Runbook.readEnvironment
  let around := Runbook.Surroundings.offline files environment (← IO.monoNanosNow)
  let output := around.output arguments
  IO.print output.out
  IO.eprint output.err
  return output.exit.toUInt32
