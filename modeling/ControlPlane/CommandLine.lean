/-
The program as it is run from a command line.

It loads the configuration and brings the schema of the database up to date. A run is a function of
its arguments, the environment variables, the files and the database servers within reach.
-/
import ControlPlane.CommandLine.Options
import ControlPlane.Configuration.Load
import ControlPlane.Deployment
import ControlPlane.Telemetry

namespace ControlPlane
namespace CommandLine

def programName : String := "fleetstore"

def programVersion : String := "0.1.0"

def about : String :=
  "Persistence layer for a multi-cloud orchestration control plane: clouds, regions, " ++
    "controllers, models, credentials and access grants"

/-- The variable that may name the configuration file. -/
def pathVariable : String := "FLEETSTORE_CONFIG"

def usage : String := "Usage: " ++ programName ++ " [OPTIONS]"

/-- The help text, which shows the value of the variable for the path. -/
def help (variablePath : Option String) : String :=
  String.intercalate "\n"
    [about, "", usage, "", "Options:",
      "  -f, --config <CONFIG>  Path to configuration file [env: " ++ pathVariable ++ "=" ++
        variablePath.getD "" ++ "] [default: " ++ Options.defaultPath ++ "]",
      "      --validate         Validate configuration and exit without touching the database",
      "      --reset            Drop every store table before migrating. Destroys all data",
      "  -h, --help             Print help",
      "  -V, --version          Print version", ""]

/-- What a run has to do with. -/
structure Invocation where
  arguments : List String
  environment : List (String × String)
  /-- The text of the file at a path, if there is one. -/
  file? : String → Option String
  /-- The database server at a URL, if one answers. -/
  server? : String → Option Server

/-- What comes of a run. -/
structure Outcome where
  exitCode : Nat
  /-- The output, apart from what is logged. -/
  output : String
  /-- Whether the run got as far as logging, which goes to the output too. -/
  hasLogged : Bool
  errorLines : List String
  /-- The database server after the run, if one was reached. -/
  server : Option Server

namespace Outcome

/-- A run that ends before anything is logged. -/
def early (exitCode : Nat) (output : String) (errorLines : List String) : Outcome :=
  ⟨exitCode, output, false, errorLines, none⟩

end Outcome

def errorLine (message : String) : String := "Error: " ++ message

/-- The run that stops at its arguments. -/
def stopped (variablePath : Option String) : OptionStop → Outcome
  | .help => .early 0 (help variablePath) []
  | .version => .early 0 (programName ++ " " ++ programVersion ++ "\n") []
  | stop =>
    .early 2 ""
      ["error: " ++ stop.message, "", usage, "", "For more information, try '--help'."]

/-- The run that migrates the database of a configuration. -/
def migrated (invocation : Invocation) (configuration : Configuration) (resets : Bool) : Outcome :=
  let announcement :=
    if configuration.exportsTraces then
      (Telemetry.Target.ofEnvironment invocation.environment).announcement
    else []
  match invocation.server? configuration.databaseUrl with
  | none => ⟨1, "", true, announcement ++ [errorLine "no database server answers"], none⟩
  | some server =>
    let opened : Deployment := { Deployment.initial configuration.store with server := server }
    let (result, after) := opened.migrate .undisturbed resets
    match result with
    | .ok () => ⟨0, "", true, announcement, some after.server⟩
    | .error e =>
      let message := e.message?.getD (e.operation ++ ": " ++ e.code)
      ⟨1, "", true, announcement ++ [errorLine message], some after.server⟩

def run (invocation : Invocation) : Outcome :=
  let variablePath := invocation.environment.lookup pathVariable
  match Options.ofArguments variablePath invocation.arguments with
  | .error stop => stopped variablePath stop
  | .ok options =>
    match Configuration.load (invocation.file? options.configPath) invocation.environment with
    | .error e => .early 1 "" [errorLine e.message]
    | .ok configuration =>
      if options.validates then .early 0 "Configuration is valid.\n" []
      else migrated invocation configuration options.resets

end CommandLine
end ControlPlane
