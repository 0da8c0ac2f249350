/-
The command line: reads what a run has to do with, and prints what comes of it.

No database server is within reach of this build, which keeps its tables in memory; so a run ends
after the configuration has been looked at.
-/
import ControlPlane.CommandLine

namespace ControlPlane
namespace Main

/-- The environment variables of this process. -/
def environment : IO (List (String × String)) := do
  let bytes ← IO.FS.readBinFile "/proc/self/environ"
  let text := (String.fromUTF8? bytes).getD ""
  return (Text.splitAt '\x00' text.toList).filterMap fun entry =>
    (Text.cutFirst? ['='] entry).map fun (name, value) => (String.ofList name, String.ofList value)

/-- The text of a file, if it can be read. -/
def readFile? (path : String) : IO (Option String) := do
  try
    return some (← IO.FS.readFile path)
  catch _ =>
    return none

/-- The text of the file at a path, which is looked for in the directories above too. -/
def findFile? (path : String) : IO (Option String) := do
  if path.startsWith "/" then readFile? path
  else
    let depth := ((← IO.currentDir).toString.splitOn "/").length
    (List.range depth).findSomeM? fun steps =>
      readFile? (String.join (List.replicate steps "../") ++ path)

/-- The paths of configuration files that a run may ask for. -/
def paths (environment : List (String × String)) (arguments : List String) : List String :=
  match Options.ofArguments (environment.lookup CommandLine.pathVariable) arguments with
  | .ok options => [options.configPath]
  | .error _ => []

end Main
end ControlPlane

open ControlPlane in
def main (arguments : List String) : IO UInt32 := do
  let environment ← Main.environment
  let files ← (Main.paths environment arguments).mapM fun path =>
    return (path, ← Main.findFile? path)
  let outcome := CommandLine.run
    { arguments := arguments
      environment := environment
      file? := fun path => (files.lookup path).join
      server? := fun _ => none }
  IO.print outcome.output
  for line in outcome.errorLines do
    IO.eprintln line
  return UInt32.ofNat outcome.exitCode
