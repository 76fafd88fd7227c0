import ToolAssistant.Duration
import ToolAssistant.Orchestration

/-!
# Settings

What a user may set, section by section, with the default of each.  Keys of services are not among
the settings.
-/

namespace ToolAssistant

/-- Where the program writes, and how much it logs. -/
structure CoreSettings where
  logLevel : String := "info"
  logFile : Option String := none
  dataDirectory : String := "~/.recall/data"
  deriving DecidableEq, Repr

/-- Whose conversation it is. -/
structure SessionSettings where
  userId : String := "default"
  deriving DecidableEq, Repr

/-- The bounds of a turn; times are in seconds. -/
structure AgentSettings where
  maxIterations : Nat := 10
  oracleTimeout : Nat := 30
  toolTimeout : Nat := 10
  parallelToolCalls : Bool := false
  contextTokenLimit : Nat := 32000
  deriving DecidableEq, Repr

/-- The language model and how it samples. -/
structure ModelSettings where
  baseUrl : String := "https://generativelanguage.googleapis.com/v1beta"
  model : String := "gemini-2.0-flash"
  temperature : Float := 0.2
  topP : Float := 0.9
  topK : Nat := 40
  maxOutputTokens : Nat := 512

/-- The weather service. -/
structure WeatherSettings where
  enabled : Bool := true
  baseUrl : String := "https://api.openweathermap.org/data/2.5"
  units : String := "metric"
  deriving DecidableEq, Repr

/-- Which built-in tools are on offer. -/
structure ToolSettings where
  math : Bool := true
  date : Bool := true
  text : Bool := true
  weather : WeatherSettings := {}
  deriving DecidableEq, Repr

/-- What keeps the turns of users. -/
inductive MemoryBackend where
  | mem0
  | sqlite
  | disabled
  deriving DecidableEq, Repr

/-- The name of a backend. -/
def MemoryBackend.name : MemoryBackend → String
  | mem0 => "mem0"
  | sqlite => "sqlite"
  | disabled => "none"

/-- Every backend under its name. -/
def MemoryBackend.choices : List (String × MemoryBackend) :=
  [mem0, sqlite, disabled].map fun backend => (backend.name, backend)

/-- Long-term memory; the time limit is in seconds. -/
structure MemorySettings where
  backend : MemoryBackend := .mem0
  minQueryChars : Nat := 4
  maxSnippets : Nat := 5
  timeout : Nat := 5
  mem0BaseUrl : String := "https://api.mem0.ai"
  deriving DecidableEq, Repr

/-- All settings. -/
structure Settings where
  core : CoreSettings := {}
  session : SessionSettings := {}
  agent : AgentSettings := {}
  model : ModelSettings := {}
  tools : ToolSettings := {}
  memory : MemorySettings := {}

/-- The bounds of a turn. -/
def AgentSettings.limits (agent : AgentSettings) : TurnLimits where
  maxIterations := agent.maxIterations
  oracleTimeout := .ofSeconds agent.oracleTimeout
  toolTimeout := .ofSeconds agent.toolTimeout
  parallel := agent.parallelToolCalls
  contextTokens := agent.contextTokenLimit

end ToolAssistant
