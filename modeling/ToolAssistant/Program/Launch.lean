import ToolAssistant.CommandLine
import ToolAssistant.Logging
import ToolAssistant.Program.Handlers
import ToolAssistant.Settings.File

/-!
# Running the program

Reads the command line, loads variables and settings, starts logging and runs the command.
Expressions are evaluated before any of the files is looked at.
-/

namespace ToolAssistant

/-- What the program is started with. -/
structure Launch where
  arguments : List String
  environment : Environment
  input : List InputLine

/-- What the program leaves behind. -/
structure Exit where
  code : Nat
  output : String
  errors : String

namespace Launch

/-- The name of the program with its version. -/
def versionText : String := "recall 0.1.0\n"

/-- How the program is used. -/
def usageText : String :=
  "Usage: recall [--json] [--log LEVEL] [--config PATH] [--user ID] [COMMAND]\n\n" ++
    "Commands: chat, ask QUERY, demo, tools, eval EXPRESSION, secret set NAME VALUE, " ++
    "secret remove NAME\n"

/-- The exit after arguments that run no command. -/
def usageExit : UsageError → Exit
  | .version => ⟨0, versionText, ""⟩
  | .help => ⟨0, usageText, ""⟩
  | _ => ⟨2, "", usageText⟩

/-- The exit after a command. -/
def commandExit (report : CommandReport) : Exit :=
  match report.error with
  | none => ⟨0, report.output, ""⟩
  | some error => ⟨1, report.output, error.report⟩

/-- The name of a file of variables. -/
def variablesFile : String := ".env"

/-- Where a file of variables may lie: in the working directory or in one above it, the nearest
first. -/
def variablesPlaces (files : FileTree) : List Place :=
  let depth := files.workingDirectory.length
  (List.range (depth + 1)).reverse.map fun n => files.workingDirectory.take n ++ [variablesFile]

/-- The environment with the variables of the nearest file of variables. -/
def fullEnvironment (launch : Launch) (files : FileTree) : Environment :=
  let texts := (variablesPlaces files).filterMap fun place =>
    (files.readText (.ofPlace place)).toOption
  texts.head?.elim launch.environment (Dotenv.add launch.environment)

variable {σ : Type}

/-- The configuration file: the one that is named, or that of the user. -/
def configPath (home : String) (options : Options) : FilePath :=
  .ofText (options.config.getD (Settings.defaultPath home))

/-- Loads the settings, from the file that is named or that of the user. -/
def loadSettings (system : System σ) (options : Options) (world : σ) :
    Except Failure Settings × σ :=
  let (settings, files) :=
    Settings.loadOrCreate system.home (system.files world) (configPath system.home options)
  (settings, system.setFiles files world)

/-- The settings with the options put in place of what the file says. -/
def applyOptions (options : Options) (settings : Settings) : Settings :=
  { settings with
    core := { settings.core with logLevel := options.log.getD settings.core.logLevel } }

/-- Starts logging as the settings say. -/
def startLogging (system : System σ) (settings : Settings) (world : σ) :
    Except Failure Unit × σ :=
  let (started, files) :=
    Logging.start (system.files world) (settings.core.logFile.map FilePath.ofText)
  (started, system.setFiles files world)

/-- Runs a command in its workplace. -/
def runCommand (place : Workplace σ) (json : Bool) (input : List InputLine) (world : σ) :
    Command → CommandReport × σ
  | .chat => CommandReport.chat place input world
  | .ask query => CommandReport.ask place json query world
  | .demo => CommandReport.demo place json world
  | .tools => (CommandReport.tools place json, world)
  | .eval expression => (CommandReport.eval json expression, world)
  | .secretSet name value => (CommandReport.secretSet place.system.keychain name value, world)
  | .secretRemove name => (CommandReport.secretRemove place.system.keychain name, world)

/-- Prepares the workplace of a command. -/
def prepare (launch : Launch) (system : System σ) (options : Options) (world : σ) :
    Except Failure (Workplace σ) × σ :=
  let environment := launch.fullEnvironment (system.files world)
  match loadSettings system options world with
  | (.error failure, world) => (.error failure, world)
  | (.ok settings, world) =>
    let settings := applyOptions options settings
    match startLogging system settings world with
    | (.error failure, world) => (.error failure, world)
    | (.ok (), world) =>
      (.ok { system, environment, settings, userId := options.user.getD settings.session.userId },
        world)

/-- Runs an accepted command line. -/
def runInvocation (launch : Launch) (system : System σ) (invocation : Invocation) (world : σ) :
    CommandReport × σ :=
  let options := invocation.options
  match invocation.command with
  | some (.eval expression) => (CommandReport.eval options.json expression, world)
  | command =>
    match prepare launch system options world with
    | (.error failure, world) => (CommandReport.failed failure, world)
    | (.ok place, world) =>
      runCommand place options.json launch.input world (command.getD .chat)

/-! ## What a run looks at -/

/-- Does the run read its input? -/
def readsInput (launch : Launch) : Bool :=
  match CommandLine.read launch.arguments with
  | .ok invocation => (invocation.command.getD .chat) == .chat
  | .error _ => false

/-- The files that settings name. -/
def settingsPaths (files : FileTree) (settings : Settings) : List FilePath :=
  let database := FilePath.joinText settings.core.dataDirectory Index.fileName
  (settings.core.logFile.toList ++ [database]).map .ofText ++
    (Index.placeOf files database).toOption.toList.map .ofPlace

/-- The files that the run may look at, as far as the files that are known tell. -/
def paths (launch : Launch) (home : String) (files : FileTree) : List FilePath :=
  match CommandLine.read launch.arguments with
  | .error _ => []
  | .ok invocation =>
    let path := configPath home invocation.options
    let settings := (Settings.loadOrCreate home files path).1
    (variablesPlaces files).map .ofPlace ++ path :: settings.toOption.elim [] (settingsPaths files)

/-! ## The run -/

/-- Runs the program. -/
def run (launch : Launch) (system : System σ) (world : σ) : Exit × σ :=
  match CommandLine.read launch.arguments with
  | .error error => (usageExit error, world)
  | .ok invocation =>
    let (report, world) := launch.runInvocation system invocation world
    (commandExit report, world)

end Launch

end ToolAssistant
