import ToolAssistant.Files.Tree
import ToolAssistant.Settings.Data
import ToolAssistant.Settings.Validation
import ToolAssistant.Toml.Reader

/-!
# The configuration file

Settings are loaded from a configuration file.  Where there is none, one with the default settings
is written first; it keeps the tilde, so it stays good for another home directory.
-/

namespace ToolAssistant.Settings

/-- Reads settings from the text of a configuration file and checks them. -/
def ofText (home text : String) : Except Failure Settings :=
  match (Toml.read? text).bind (Settings.read? .toml) with
  | some settings => settings.validate home
  | none => .error (.configuration "Failed to parse config: the text holds no settings")

/-! ## Writing -/

/-- A section of a configuration file: its header, and a line for each key. -/
def sectionText (header : String) (values : List (String × Json)) : String :=
  let line (pair : String × Json) : String := pair.1 ++ " = " ++ pair.2.compact ++ "\n"
  "[" ++ header ++ "]\n" ++ String.join (values.map line)

/-- Settings as the text of a configuration file. -/
def fileText (settings : Settings) : String :=
  let { core, session, agent, model, tools, memory } := settings
  let logFile := core.logFile.toList.map fun file => ("log_file", Json.string file)
  String.intercalate "\n"
    [sectionText "core"
        ([("log_level", .string core.logLevel)] ++ logFile ++
          [("data_dir", .string core.dataDirectory)]),
      sectionText "session" [("user_id", .string session.userId)],
      sectionText "agent"
        [("max_iterations", .ofNat agent.maxIterations),
          ("oracle_timeout_secs", .ofNat agent.oracleTimeout),
          ("tool_timeout_secs", .ofNat agent.toolTimeout),
          ("parallel_tool_calls", .bool agent.parallelToolCalls),
          ("context_token_limit", .ofNat agent.contextTokenLimit)],
      sectionText "llm.gemini"
        [("base_url", .string model.baseUrl), ("model", .string model.model),
          ("temperature", .ofFloat model.temperature), ("top_p", .ofFloat model.topP),
          ("top_k", .ofNat model.topK), ("max_output_tokens", .ofNat model.maxOutputTokens)],
      sectionText "tools"
        [("math", .bool tools.math), ("date", .bool tools.date), ("text", .bool tools.text)],
      sectionText "tools.weather"
        [("enabled", .bool tools.weather.enabled), ("base_url", .string tools.weather.baseUrl),
          ("units", .string tools.weather.units)],
      sectionText "memory"
        [("backend", .string memory.backend.name), ("min_query_chars", .ofNat memory.minQueryChars),
          ("max_snippets", .ofNat memory.maxSnippets), ("timeout_secs", .ofNat memory.timeout)],
      sectionText "memory.mem0" [("base_url", .string memory.mem0BaseUrl)]]

/-! ## Loading -/

/-- Loads settings from a file that exists. -/
def load (home : String) (files : FileTree) (path : FilePath) : Except Failure Settings :=
  match files.readText path with
  | .error error => .error (.configuration ("Failed to read config file: " ++ error.message))
  | .ok text => ofText home text

/-- Writes a file with the default settings. -/
def create (home : String) (files : FileTree) (path : FilePath) :
    Except Failure Settings × FileTree :=
  match files.ensureParent path with
  | (.error error, files) =>
    (.error (.configuration ("Failed to create config directory: " ++ error.message)), files)
  | (.ok (), files) =>
    let defaults : Settings := {}
    match files.write path defaults.fileText with
    | .error error =>
      (.error (.configuration ("Failed to write config file: " ++ error.message)), files)
    | .ok files => (defaults.validate home, files)

/-- Loads settings from a file, which is written first if there is none. -/
def loadOrCreate (home : String) (files : FileTree) (path : FilePath) :
    Except Failure Settings × FileTree :=
  if files.contains path then (load home files path, files) else create home files path

/-- Where the configuration file of a user is. -/
def defaultPath (home : String) : String :=
  FilePath.joinText home ".recall/config.toml"

end ToolAssistant.Settings
