import ToolAssistant.Failure
import ToolAssistant.Files.Path
import ToolAssistant.Settings.Basic
import ToolAssistant.Text.Blank

/-!
# Valid settings

Settings are used only after their values have been checked and the home directory has been put in
for a tilde.  The first fault in the order of `Settings.faults` is the one that is reported.
-/

namespace ToolAssistant

/-- Puts the home directory in for a tilde at the start of a path. -/
def FilePath.expandHome (home path : String) : String :=
  match path.toList with
  | ['~'] => home
  | '~' :: '/' :: rest => FilePath.joinText home (String.ofList rest)
  | _ => path

namespace Settings

/-- The levels of logging. -/
def logLevels : List String := ["error", "warn", "info", "debug", "trace"]

/-- The systems of units. -/
def weatherUnits : List String := ["metric", "imperial", "standard"]

/-- Does the number lie between two bounds? -/
def isBetween (low high x : Float) : Bool :=
  low ≤ x && x ≤ high

/-- A value that is none of those allowed. -/
def unknownChoice (what value : String) (allowed : List String) : String :=
  "Invalid " ++ what ++ " '" ++ value ++ "'. Must be one of: " ++ String.intercalate ", " allowed

/-- Each check: whether the settings fail it, and what is said then. -/
def faults (settings : Settings) : List (Bool × String) :=
  let agent := settings.agent
  let model := settings.model
  let level := settings.core.logLevel
  let units := settings.tools.weather.units
  [(!logLevels.contains level, unknownChoice "log level" level logLevels),
    (Text.isBlankText settings.session.userId, "session.user_id must not be empty"),
    (agent.maxIterations == 0, "agent.max_iterations must be at least 1"),
    (agent.oracleTimeout == 0 || agent.toolTimeout == 0,
      "agent timeouts must be at least 1 second"),
    (!isBetween 0.0 2.0 model.temperature, "llm.gemini.temperature must be between 0.0 and 2.0"),
    (!isBetween 0.0 1.0 model.topP, "llm.gemini.top_p must be between 0.0 and 1.0"),
    (model.maxOutputTokens == 0, "llm.gemini.max_output_tokens must be positive"),
    (!weatherUnits.contains units, unknownChoice "weather units" units weatherUnits),
    (settings.memory.maxSnippets == 0, "memory.max_snippets must be at least 1"),
    (settings.memory.timeout == 0, "memory.timeout_secs must be at least 1 second")]

/-- The settings with the home directory put in. -/
def expandPaths (home : String) (settings : Settings) : Settings :=
  { settings with
    core :=
      { settings.core with
        dataDirectory := FilePath.expandHome home settings.core.dataDirectory
        logFile := settings.core.logFile.map (FilePath.expandHome home) } }

/-- Checks settings and puts the home directory in. -/
def validate (home : String) (settings : Settings) : Except Failure Settings :=
  match settings.faults.find? (·.1) with
  | some (_, fault) => .error (.configuration fault)
  | none => .ok (settings.expandPaths home)

end Settings

end ToolAssistant
