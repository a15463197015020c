import WorkspaceFleet.Document.Json
import WorkspaceFleet.Service

/-!
# WorkspaceFleet.CommandLine

The command line of the service: what its arguments ask for, how that is carried out, and what the process
prints and returns.

`Command.parse` reads the arguments from left to right and gives nothing where they are not understood.
A value follows its option as the next argument, which must not look like an option, or after an equals
sign. No option may be given twice, and no value may be empty.
-/

namespace WorkspaceFleet

inductive Command where
  | run (config : String) (dataDir : Option String)
  | checkConfig (config : String)
  | status (dataDir : String)
  | help (text : String)
  deriving DecidableEq, Repr

namespace Command

/-! ## Arguments -/

/-- What has been read of a command's arguments. -/
structure Given where
  logJson : Bool
  values : List (String × String)
  help : Bool

def Given.none : Given := ⟨false, [], false⟩

def looksLikeOption (arg : String) : Bool := arg.startsWith "-" && arg != "-"

def asksForHelp (arg : String) : Bool :=
  arg == "--help" || (arg.startsWith "-h" && !arg.startsWith "--")

def Given.add (g : Given) (option value : String) : Option Given :=
  if value = "" ∨ (g.values.lookup option).isSome then .none
  else some { g with values := g.values ++ [(option, value)] }

def splitValue (arg : String) : Option (String × String) :=
  match arg.splitOn "=" with
  | option :: v :: rest => some (option, String.intercalate "=" (v :: rest))
  | _ => .none

def readArguments (options : List String) (g : Given) : List String → Option Given
  | [] => some g
  | ["--"] => some g
  | "--log-json" :: rest => if g.logJson then .none else readArguments options { g with logJson := true } rest
  | [arg] =>
    if asksForHelp arg then some { g with help := true }
    else
      match splitValue arg with
      | some (option, value) => if options.contains option then g.add option value else .none
      | .none => .none
  | arg :: value :: rest =>
    if asksForHelp arg then some { g with help := true }
    else if options.contains arg then
      if looksLikeOption value then .none
      else (g.add arg value).bind (fun g => readArguments options g rest)
    else
      match splitValue arg with
      | some (option, attached) =>
        if options.contains option then
          (g.add option attached).bind (fun g => readArguments options g (value :: rest))
        else .none
      | .none => .none

/-! ## Explanations -/

/-- The words of a text on lines of a width, greedily. -/
def fill (width : Nat) (words : List String) : List String :=
  words.foldl (fun lines w =>
    match lines.getLast? with
    | .none => [w]
    | some line =>
      if line.length + 1 + w.length ≤ width then lines.dropLast ++ [line ++ " " ++ w]
      else lines ++ [w]) []

/-- An option with its explanation, which starts at a column. -/
def optionLines (column : Nat) (option explanation : String) : List String :=
  match fill (100 - column) (explanation.splitOn " ") with
  | [] => [option]
  | first :: rest =>
    (option ++ String.ofList (List.replicate (column - option.length) ' ') ++ first) ::
      rest.map (fun l => String.ofList (List.replicate column ' ') ++ l)

def explanation (about usage : String) (options : List (String × String)) : String :=
  let column := (options.map (fun o => o.1.length)).foldl max 0 + 2
  String.intercalate "\n" ([about, "", "Usage: " ++ usage, "", "Options:"] ++
    options.flatMap (fun o => optionLines column o.1 o.2)) ++ "\n"

def configOption (env : Option String) : String × String :=
  ("      --config <CONFIG>", "Fleet configuration file [env: DESKGRID_CONFIG=" ++ env.getD "" ++
    "] [default: " ++ Service.defaultConfig ++ "]")

def logOption : String × String := ("      --log-json", "Emit logs as JSON lines")

def helpOption : String × String := ("  -h, --help", "Print help")

def runAbout : String := "Run the registry and health monitor until interrupted"

def checkAbout : String := "Parse and validate a configuration file, then exit"

def statusAbout : String := "Print persisted server and workspace health as JSON"

def runHelp (env : Option String) : String :=
  explanation runAbout "deskgridd run [OPTIONS]" [configOption env, logOption,
    ("      --data-dir <DATA_DIR>",
      "Data directory for persistent state. Overrides \x60data_dir\x60 in the config"), helpOption]

def checkHelp (env : Option String) : String :=
  explanation checkAbout "deskgridd check-config [OPTIONS]"
    [configOption env, logOption, helpOption]

def statusHelp : String :=
  explanation statusAbout "deskgridd status [OPTIONS]"
    [("      --data-dir <DATA_DIR>", "[default: " ++ Service.defaultDataDir ++ "]"), logOption,
      helpOption]

def helpAbout : String := "Print this message or the help of the given subcommand(s)"

def helpHelp : String :=
  String.intercalate "\n" [helpAbout, "", "Usage: deskgridd help [COMMAND]...", "", "Arguments:",
    "  [COMMAND]...  Print help for the subcommand(s)"] ++ "\n"

def overview : String :=
  String.intercalate "\n" [
    "deskgrid workspace fleet daemon", "", "Usage: deskgridd [OPTIONS] <COMMAND>", "",
    "Commands:",
    "  run           " ++ runAbout,
    "  check-config  " ++ checkAbout,
    "  status        " ++ statusAbout,
    "  help          " ++ helpAbout, "",
    "Options:",
    "      --log-json  Emit logs as JSON lines",
    "  -h, --help      Print help"] ++ "\n"

/-! ## Reading -/

def configPath (env : Option String) (g : Given) : Option String :=
  match g.values.lookup "--config" with
  | some path => some path
  | .none => if env = some "" then .none else some (env.getD Service.defaultConfig)

def readCommand (env : Option String) (name : String) (args : List String) : Option Command :=
  match name with
  | "run" => do
    let g ← readArguments ["--config", "--data-dir"] .none args
    if g.help then return .help (runHelp env)
    return .run (← configPath env g) (g.values.lookup "--data-dir")
  | "check-config" => do
    let g ← readArguments ["--config"] .none args
    if g.help then return .help (checkHelp env)
    return .checkConfig (← configPath env g)
  | "status" => do
    let g ← readArguments ["--data-dir"] .none args
    if g.help then return .help statusHelp
    return .status ((g.values.lookup "--data-dir").getD Service.defaultDataDir)
  | "help" =>
    match args with
    | [] => some (.help overview)
    | ["run"] => some (.help (runHelp env))
    | ["check-config"] => some (.help (checkHelp env))
    | ["status"] => some (.help statusHelp)
    | ["help"] => some (.help helpHelp)
    | _ => .none
  | _ => .none

/-- Reads a command line. The environment may name the configuration. -/
def parse (env : Option String) : List String → Option Command
  | [] => .none
  | "--log-json" :: "--log-json" :: _ => .none
  | "--log-json" :: arg :: rest =>
    if asksForHelp arg then some (.help overview) else readCommand env arg rest
  | arg :: rest => if asksForHelp arg then some (.help overview) else readCommand env arg rest

end Command

inductive Printed where
  | nothing
  | text (s : String)
  | document (d : Document Float)

/-- What a process leaves: what it prints, or why it failed, and its exit code. -/
structure ProcessResult where
  code : Nat
  output : Printed
  error : Option ServiceError

namespace Command

def execute (now : Nat) : Command → Work Printed
  | .run config dataDir => do
    Service.runOnce config dataDir now
    return .nothing
  | .checkConfig path => do
    let n ← .check (Service.checkConfig (← Work.disk).files path)
    return .text (path ++ ": ok (" ++ Text.Decimal.text n ++ " server(s))\n")
  | .status dataDir => return .document (← Service.status dataDir)
  | .help text => return .text text

def process (env : Option String) (args : List String) (now : Nat) (disk : Disk) :
    ProcessResult × Session :=
  match parse env args with
  | .none => (⟨2, .nothing, .none⟩, ⟨disk, []⟩)
  | some command =>
    match (execute now command).carryOut disk with
    | (.ok printed, s) => (⟨0, printed, .none⟩, s)
    | (.error e, s) => (⟨1, .nothing, some e⟩, s)

end Command
end WorkspaceFleet
