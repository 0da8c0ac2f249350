/-
The options of the command line.

Arguments are looked at one by one, and the first that stops the program decides how. An option
that takes a value takes it from its own argument or, if nothing is attached there, from the next
one, which must not be an option itself.
-/
import ControlPlane.Text.Search

namespace ControlPlane

structure Options where
  /-- The path of the configuration file. -/
  configPath : String
  /-- Whether to look at the configuration only. -/
  validates : Bool
  /-- Whether to drop all tables before migrating. -/
  resets : Bool
  deriving DecidableEq, Repr, Inhabited

/-- Why the program stops at its arguments. -/
inductive OptionStop
  | help
  | version
  | unknownArgument (argument : String)
  | missingValue
  | repeated (option : String)
  | needlessValue (option value : String)
  deriving DecidableEq, Repr, Inhabited

namespace OptionStop

/-- Whether the program was asked for what it prints. -/
def isAnswer : OptionStop → Bool
  | help => true
  | version => true
  | _ => false

/-- What is said of a mistake. -/
def message : OptionStop → String
  | help => ""
  | version => ""
  | unknownArgument argument => "unexpected argument '" ++ argument ++ "' found"
  | missingValue => "a value is required for '--config <CONFIG>' but none was supplied"
  | repeated option => "the argument '" ++ option ++ "' cannot be used multiple times"
  | needlessValue option value =>
    "unexpected value '" ++ value ++ "' for '" ++ option ++ "' found; no more were expected"

end OptionStop

namespace Options

/-! ## Arguments -/

inductive Switch
  | validate
  | reset
  | help
  | version
  deriving DecidableEq, Repr

/-- What an argument is, looked at alone. -/
inductive Argument
  | switch (which : Switch)
  /-- The option for the path, perhaps with its value. -/
  | config (value : Option String)
  /-- From here on nothing is an option. -/
  | endOfOptions
  | word (text : String)
  | mistake (stop : OptionStop)
  deriving DecidableEq, Repr

/-- The switches by their long names. -/
def switches : List (String × Switch) :=
  [("validate", .validate), ("reset", .reset), ("help", .help), ("version", .version)]

/-- An argument after two hyphens. -/
def Argument.long (cs : List Char) : Argument :=
  let (name, value) :=
    match Text.cutFirst? ['='] cs with
    | some (name, value) => (String.ofList name, some (String.ofList value))
    | none => (String.ofList cs, none)
  if name = "config" then .config value
  else
    match switches.lookup name, value with
    | some which, none => .switch which
    | some _, some value => .mistake (.needlessValue ("--" ++ name) value)
    | none, _ => .mistake (.unknownArgument ("--" ++ name))

/-- An argument after one hyphen: a letter, and what is attached to it. -/
def Argument.short (c : Char) (attached : List Char) : Argument :=
  if c = 'f' then
    .config <|
      match attached with
      | [] => none
      | '=' :: value => some (String.ofList value)
      | value => some (String.ofList value)
  else if c = 'h' then .switch .help
  else if c = 'V' then .switch .version
  else .mistake (.unknownArgument (String.ofList ['-', c]))

def Argument.ofString (argument : String) : Argument :=
  match argument.toList with
  | ['-', '-'] => .endOfOptions
  | '-' :: '-' :: cs => .long cs
  | '-' :: c :: attached => .short c attached
  | _ => .word argument

/-! ## Reading -/

/-- What has been read so far. -/
structure Read where
  configPath : Option String
  validates : Bool
  resets : Bool
  /-- The option for the path if it stands apart from its value, and the value once it is read. -/
  pending : Option (Option String)

namespace Read

def empty : Read := ⟨none, false, false, none⟩

def withPath (r : Read) (path : String) : Except OptionStop Read :=
  match r.configPath with
  | some _ => .error (.repeated "--config <CONFIG>")
  | none => .ok { r with configPath := some path }

def withSwitch (r : Read) : Switch → Except OptionStop Read
  | .validate =>
    if r.validates then .error (.repeated "--validate") else .ok { r with validates := true }
  | .reset => if r.resets then .error (.repeated "--reset") else .ok { r with resets := true }
  | .help => .error .help
  | .version => .error .version

/-- Settle the option that stands apart from its value. It is settled no sooner than the next
option or the end of the arguments, so that an unknown argument is reported first. -/
def settle (r : Read) : Except OptionStop Read :=
  match r.pending with
  | none => .ok r
  | some none => .error .missingValue
  | some (some path) => { r with pending := none }.withPath path

/-- Read one more argument that is not behind the end of the options. -/
def step (r : Read) : Argument → Except OptionStop Read
  | .mistake stop => .error stop
  | .word text =>
    if r.pending = some none then .ok { r with pending := some (some text) }
    else .error (.unknownArgument text)
  | .endOfOptions => .ok r
  | .config none => r.settle.map fun r => { r with pending := some none }
  | .config (some path) => r.settle.bind fun r => r.withPath path
  | .switch which => r.settle.bind fun r => r.withSwitch which

/-- Read the remaining arguments. -/
def all (r : Read) : List String → Except OptionStop Read
  | [] => r.settle
  | argument :: rest =>
    match Argument.ofString argument, rest with
    | .endOfOptions, excess :: _ => .error (.unknownArgument excess)
    | a, rest => (r.step a).bind fun r => r.all rest

end Read

/-- The path of the configuration file that is not named otherwise. -/
def defaultPath : String := "config.yaml"

/-- The options in arguments. Where they name no configuration file, a variable may. -/
def ofArguments (variablePath : Option String) (arguments : List String) :
    Except OptionStop Options := do
  let r ← Read.empty.all arguments
  let path := (r.configPath <|> variablePath).getD defaultPath
  return ⟨path, r.validates, r.resets⟩

end Options
end ControlPlane
