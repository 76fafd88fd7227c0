import ToolAssistant.Credentials
import ToolAssistant.Tool.Calculator
import ToolAssistant.Tool.DateOffset
import ToolAssistant.Tool.Registry
import ToolAssistant.Tool.TextAnalysis
import ToolAssistant.Tool.Weather

/-!
# The built-in tools

Which of the built-in tools are on offer is set by the user.  They always come in the same order.
-/

namespace ToolAssistant.Registry

variable {σ : Type}

/-- What the built-in tools need of a world. -/
structure Surroundings (σ : Type) where
  client : Http.Client σ
  today : σ → Date

/-- Access to the weather service. -/
def Surroundings.weather (surroundings : Surroundings σ) (settings : WeatherSettings)
    (key : Secret) : Weather.Service σ where
  client := surroundings.client
  baseUrl := settings.baseUrl
  units := settings.units
  key := key
  timeout := Weather.defaultTimeout

/-- The weather tool, if it is on offer; then its key has to be there. -/
def weatherTools (surroundings : Surroundings σ) (settings : WeatherSettings)
    (key : Option Secret) : Except Failure (List (Tool σ)) :=
  if !settings.enabled then .ok []
  else
    match key with
    | some key => .ok [Weather.tool (surroundings.weather settings key)]
    | none =>
      .error (.configuration
        (Weather.toolName ++ " is enabled but " ++ weatherKeyName ++ " is missing"))

/-- The registry of the built-in tools that are on offer. -/
def builtin (surroundings : Surroundings σ) (settings : ToolSettings) (weatherKey : Option Secret) :
    Except Failure (Registry σ) := do
  let offered (isOffered : Bool) (tool : Tool σ) : List (Tool σ) := if isOffered then [tool] else []
  let registry ← empty.registerAll
    (offered settings.math Calculator.tool ++
      offered settings.date (DateOffset.tool surroundings.today))
  let registry ← registry.registerAll (← weatherTools surroundings settings.weather weatherKey)
  registry.registerAll (offered settings.text TextAnalysis.tool)

end ToolAssistant.Registry
