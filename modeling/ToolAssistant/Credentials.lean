import ToolAssistant.Secret
import ToolAssistant.Settings.Basic

/-!
# Credentials

The keys of the services that the settings make use of.  The model's key has to be there, the
weather service's when its tool is on offer; without the key of the hosted memory there is no
memory.
-/

namespace ToolAssistant

/-- The keys of the services. -/
structure Credentials where
  gemini : Secret
  weather : Option Secret
  mem0 : Option Secret

namespace Credentials

/-- The failure for a key that has to be there. -/
def missing (name : String) : Failure :=
  .configuration
    (name ++ " not found. Set it in the environment, a .env file, or run \x60recall secret set " ++
      name ++ "\x60")

/-- Looks up a key that has to be there. -/
def require (lookup : String → Option Secret) (name : String) : Except Failure Secret :=
  match lookup name with
  | some secret => .ok secret
  | none => .error (missing name)

/-- Looks up every key that the settings make use of. -/
def resolve (settings : Settings) (lookup : String → Option Secret) :
    Except Failure Credentials := do
  let gemini ← require lookup geminiKeyName
  let weather ←
    if settings.tools.weather.enabled then (require lookup weatherKeyName).map some else pure none
  let mem0 := if settings.memory.backend = .mem0 then lookup mem0KeyName else none
  return { gemini, weather, mem0 }

/-- What is shown for credentials: which of them are there, and nothing else. -/
def debugText (credentials : Credentials) : String :=
  "Credentials \x7b gemini_api_key: " ++ credentials.gemini.debugText ++ ", weather_api_key: " ++
    Secret.optionText credentials.weather ++ ", mem0_api_key: " ++
    Secret.optionText credentials.mem0 ++ " \x7d"

end Credentials

end ToolAssistant
