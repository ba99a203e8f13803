import ExternalRepos.CommandLine.Run
import ExternalRepos.Settings.Sources

/-!
# The program

Reads the environment and the arguments, runs the command, and prints what it
has to say. The program by itself brings no extensions: a definition file that
it finds on disk defines nothing. Other programs supply definitions to
`Command.run` as values.
-/

namespace ExternalRepos

/-- The variables of the process environment that hold settings. -/
def settingVariables : IO (List (String × String)) := do
  let found ← Setting.all.mapM fun setting => do
    let content ← IO.getEnv (setting.variableName.map Char.toUpper)
    return content.map fun content => (setting.variableName, content)
  return found.filterMap id

/-- The file at a path, if there is a regular one. -/
def fileOnDisk (path : String) : IO (List (String × File)) := do
  try
    let _ ← IO.FS.readBinFile path
    return [(path, .regular .empty)]
  catch _ =>
    return []

/-- The files that a command finds, after its log has been opened. -/
def filesFor : Command → IO Files
  | .eval options => do
      if let some log := options.logFile then
        IO.FS.writeFile log ""
      return .ofList (← fileOnDisk options.path)
  | .vendor path _ => return .ofList (← fileOnDisk path)
  | _ => return .empty

/-- Prints the outcome of a command; the result is its exit code. -/
def finish (outcome : CommandOutcome) : IO UInt32 := do
  IO.eprint outcome.stderr
  if let some failure := outcome.escaped then
    IO.eprintln failure.message
  IO.print outcome.stdout
  return outcome.exitCode.toUInt32

end ExternalRepos

open ExternalRepos in
/-- Runs the command of the command line; the environment alone never gives unusable settings. -/
def main (words : List String) : IO UInt32 := do
  let settings := (Settings.load (← settingVariables) none).toOption.getD .default
  match Command.read words with
  | .error problem => finish (.ofUsageError (.empty) problem)
  | .ok command => finish (command.run settings (← filesFor command))
