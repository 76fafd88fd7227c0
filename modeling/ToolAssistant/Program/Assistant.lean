import ToolAssistant.Dotenv
import ToolAssistant.Gemini.Service
import ToolAssistant.Memory.Backend
import ToolAssistant.Session.Controller
import ToolAssistant.Tool.Builtin

/-!
# Setting up an assistant

Puts a session together from the settings and the keys in the environment.  A missing key is found
here, before any session starts.
-/

namespace ToolAssistant

/-- Everything that a command works with. -/
structure Workplace (σ : Type) where
  system : System σ
  environment : Environment
  settings : Settings
  userId : String

namespace Workplace

variable {σ : Type}

/-- Looks up a key in the environment. -/
def secret? (place : Workplace σ) (name : String) : Option Secret :=
  secretOf? (place.environment.lookup name)

/-- What the built-in tools need. -/
def surroundings (place : Workplace σ) : Registry.Surroundings σ where
  client := place.system.client
  today := place.system.today

/-- The model as an oracle. -/
def oracle (place : Workplace σ) (key : Secret) : Oracle σ :=
  let service : Gemini.Service σ :=
    { client := place.system.client, settings := place.settings.model, key
      fresh := place.system.fresh }
  service.oracle

/-- The identifier and the time of a finished turn. -/
def stamp (place : Workplace σ) (world : σ) : (String × Instant) × σ :=
  let (id, world) := place.system.fresh world
  ((id, place.system.now world), world)

/-- Puts a session together. -/
def controller (place : Workplace σ) (world : σ) : Except Failure (Controller σ) × σ :=
  match Credentials.resolve place.settings place.secret? with
  | .error failure => (.error failure, world)
  | .ok keys =>
    match Registry.builtin place.surroundings place.settings.tools keys.weather with
    | .error failure => (.error failure, world)
    | .ok registry =>
      let (gateway, world) := MemoryGateway.ofSystem place.system place.settings keys.mem0 world
      let controller : Controller σ :=
        { orchestrator :=
            { oracle := place.oracle keys.gemini, registry, limits := place.settings.agent.limits }
          instructions := Prompt.defaultInstructions
          gateway
          userId := place.userId
          stamp := place.stamp }
      (.ok controller, world)

end Workplace

end ToolAssistant
