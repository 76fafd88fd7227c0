import ToolAssistant.Json.Record
import ToolAssistant.Settings.Basic

/-!
# Settings as data

Settings are written as nested records.  Reading them fills in a default for whatever is left out
and passes over what it does not know.  Two notations carry them, which differ in two details: what
may stand beside the name of a choice, and whether surplus items of a record's array are refused.
-/

namespace ToolAssistant

namespace Json

/-- How a notation writes records and choices. -/
structure Dialect where
  /-- Are surplus items at the end of a record's array passed over? -/
  allowsSurplus : Bool
  /-- May the value stand beside the name of a choice that has no content? -/
  isEmptyContent : Json → Bool

/-- JSON itself. -/
def Dialect.json : Dialect := ⟨false, isNull⟩

/-- Configuration text. -/
def Dialect.toml : Dialect where
  allowsSurplus := true
  isEmptyContent
    | .object [] | .array [] => true
    | _ => false

/-- The fields of a record in a notation. -/
def Dialect.record? (form : Dialect) (names : List String) (value : Json) :
    Option (Record Json) :=
  match form.allowsSurplus, value with
  | true, .array items => Json.record? names (.array (items.take names.length))
  | _, _ => Json.record? names value

/-- One of several names in a notation. -/
def Dialect.oneOf? {β : Type} (form : Dialect) (choices : List (String × β)) : Json → Option β
  | .string name => choices.lookup name
  | .object [(name, content)] => if form.isEmptyContent content then choices.lookup name else none
  | _ => none

/-- A natural number of at most 32 bits. -/
def uint32? (value : Json) : Option Nat :=
  value.uint64?.filter (· < UInt32.size)

end Json

open Json (Dialect)

/-! ## Reading -/

/-- Reads the core section. -/
def CoreSettings.read? (form : Dialect) (value : Json) : Option CoreSettings := do
  let record ← form.record? ["log_level", "log_file", "data_dir"] value
  let default : CoreSettings := {}
  some
    { logLevel := ← record.withDefault "log_level" default.logLevel Json.string?
      logFile := ← record.withDefault "log_file" none (Json.orNull Json.string?)
      dataDirectory := ← record.withDefault "data_dir" default.dataDirectory Json.string? }

/-- Reads the session section. -/
def SessionSettings.read? (form : Dialect) (value : Json) : Option SessionSettings := do
  let record ← form.record? ["user_id"] value
  let default : SessionSettings := {}
  some { userId := ← record.withDefault "user_id" default.userId Json.string? }

/-- Reads the agent section. -/
def AgentSettings.read? (form : Dialect) (value : Json) : Option AgentSettings := do
  let names :=
    ["max_iterations", "oracle_timeout_secs", "tool_timeout_secs", "parallel_tool_calls",
      "context_token_limit"]
  let record ← form.record? names value
  let default : AgentSettings := {}
  some
    { maxIterations := ← record.withDefault "max_iterations" default.maxIterations Json.uint64?
      oracleTimeout := ← record.withDefault "oracle_timeout_secs" default.oracleTimeout Json.uint64?
      toolTimeout := ← record.withDefault "tool_timeout_secs" default.toolTimeout Json.uint64?
      parallelToolCalls :=
        ← record.withDefault "parallel_tool_calls" default.parallelToolCalls Json.bool?
      contextTokenLimit :=
        ← record.withDefault "context_token_limit" default.contextTokenLimit Json.uint64? }

/-- Reads the settings of the language model. -/
def ModelSettings.read? (form : Dialect) (value : Json) : Option ModelSettings := do
  let names := ["base_url", "model", "temperature", "top_p", "top_k", "max_output_tokens"]
  let record ← form.record? names value
  let default : ModelSettings := {}
  some
    { baseUrl := ← record.withDefault "base_url" default.baseUrl Json.string?
      model := ← record.withDefault "model" default.model Json.string?
      temperature := ← record.withDefault "temperature" default.temperature Json.float?
      topP := ← record.withDefault "top_p" default.topP Json.float?
      topK := ← record.withDefault "top_k" default.topK Json.uint32?
      maxOutputTokens :=
        ← record.withDefault "max_output_tokens" default.maxOutputTokens Json.uint32? }

/-- Reads the section that holds the settings of the language model. -/
def ModelSettings.readSection? (form : Dialect) (value : Json) : Option ModelSettings := do
  (← form.record? ["gemini"] value).withDefault "gemini" {} (ModelSettings.read? form)

/-- Reads the settings of the weather service. -/
def WeatherSettings.read? (form : Dialect) (value : Json) : Option WeatherSettings := do
  let record ← form.record? ["enabled", "base_url", "units"] value
  let default : WeatherSettings := {}
  some
    { enabled := ← record.withDefault "enabled" default.enabled Json.bool?
      baseUrl := ← record.withDefault "base_url" default.baseUrl Json.string?
      units := ← record.withDefault "units" default.units Json.string? }

/-- Reads the section of the tools. -/
def ToolSettings.read? (form : Dialect) (value : Json) : Option ToolSettings := do
  let record ← form.record? ["math", "date", "text", "weather"] value
  let default : ToolSettings := {}
  some
    { math := ← record.withDefault "math" default.math Json.bool?
      date := ← record.withDefault "date" default.date Json.bool?
      text := ← record.withDefault "text" default.text Json.bool?
      weather := ← record.withDefault "weather" default.weather (WeatherSettings.read? form) }

/-- Reads the section of long-term memory. -/
def MemorySettings.read? (form : Dialect) (value : Json) : Option MemorySettings := do
  let names := ["backend", "min_query_chars", "max_snippets", "timeout_secs", "mem0"]
  let record ← form.record? names value
  let default : MemorySettings := {}
  let baseUrl (value : Json) : Option String := do
    (← form.record? ["base_url"] value).withDefault "base_url" default.mem0BaseUrl Json.string?
  some
    { backend := ← record.withDefault "backend" default.backend (form.oneOf? MemoryBackend.choices)
      minQueryChars := ← record.withDefault "min_query_chars" default.minQueryChars Json.uint64?
      maxSnippets := ← record.withDefault "max_snippets" default.maxSnippets Json.uint64?
      timeout := ← record.withDefault "timeout_secs" default.timeout Json.uint64?
      mem0BaseUrl := ← record.withDefault "mem0" default.mem0BaseUrl baseUrl }

/-- Reads all settings. -/
def Settings.read? (form : Dialect) (value : Json) : Option Settings := do
  let names := ["core", "session", "agent", "llm", "tools", "memory"]
  let record ← form.record? names value
  some
    { core := ← record.withDefault "core" {} (CoreSettings.read? form)
      session := ← record.withDefault "session" {} (SessionSettings.read? form)
      agent := ← record.withDefault "agent" {} (AgentSettings.read? form)
      model := ← record.withDefault "llm" {} (ModelSettings.readSection? form)
      tools := ← record.withDefault "tools" {} (ToolSettings.read? form)
      memory := ← record.withDefault "memory" {} (MemorySettings.read? form) }

/-! ## Writing -/

/-- The core section as data; a log file is left out if there is none. -/
def CoreSettings.toJson (core : CoreSettings) : Json :=
  .ofFields
    ([("log_level", .string core.logLevel), ("data_dir", .string core.dataDirectory)] ++
      core.logFile.toList.map fun file => ("log_file", .string file))

/-- The settings of the language model as data. -/
def ModelSettings.toJson (model : ModelSettings) : Json :=
  .ofFields
    [("base_url", .string model.baseUrl), ("model", .string model.model),
      ("temperature", .ofFloat model.temperature), ("top_p", .ofFloat model.topP),
      ("top_k", .ofNat model.topK), ("max_output_tokens", .ofNat model.maxOutputTokens)]

/-- All settings as data. -/
def Settings.toJson (settings : Settings) : Json :=
  let agent := settings.agent
  let tools := settings.tools
  let memory := settings.memory
  .ofFields
    [("core", settings.core.toJson),
      ("session", .ofFields [("user_id", .string settings.session.userId)]),
      ("agent", .ofFields
        [("max_iterations", .ofNat agent.maxIterations),
          ("oracle_timeout_secs", .ofNat agent.oracleTimeout),
          ("tool_timeout_secs", .ofNat agent.toolTimeout),
          ("parallel_tool_calls", .bool agent.parallelToolCalls),
          ("context_token_limit", .ofNat agent.contextTokenLimit)]),
      ("llm", .ofFields [("gemini", settings.model.toJson)]),
      ("tools", .ofFields
        [("math", .bool tools.math), ("date", .bool tools.date), ("text", .bool tools.text),
          ("weather", .ofFields
            [("enabled", .bool tools.weather.enabled), ("base_url", .string tools.weather.baseUrl),
              ("units", .string tools.weather.units)])]),
      ("memory", .ofFields
        [("backend", .string memory.backend.name), ("min_query_chars", .ofNat memory.minQueryChars),
          ("max_snippets", .ofNat memory.maxSnippets), ("timeout_secs", .ofNat memory.timeout),
          ("mem0", .ofFields [("base_url", .string memory.mem0BaseUrl)])])]

end ToolAssistant
