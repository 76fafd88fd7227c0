import ToolAssistant.Credentials
import ToolAssistant.Memory.File
import ToolAssistant.Memory.Gateway
import ToolAssistant.Memory.Mem0

/-!
# Choosing a memory store

The settings choose what keeps the turns.  A store that cannot be set up leaves the gateway without
one and with the reason.
-/

namespace ToolAssistant.MemoryGateway

variable {σ : Type}

/-- The gateway to a store, or without one. -/
def ofSettings (settings : MemorySettings) (store : Except String (MemoryStore σ)) :
    MemoryGateway σ where
  store := store
  minQueryChars := settings.minQueryChars
  maxSnippets := settings.maxSnippets
  timeout := .ofSeconds settings.timeout

/-- The store that the settings choose, or why there is none. -/
def chooseStore (system : System σ) (settings : Settings) (mem0Key : Option Secret) (world : σ) :
    Except String (MemoryStore σ) × σ :=
  match settings.memory.backend with
  | .disabled => (.error "memory is disabled in configuration", world)
  | .mem0 =>
    match mem0Key with
    | none => (.error (mem0KeyName ++ " is not configured"), world)
    | some key =>
      let service : Mem0.Service σ :=
        { client := system.client, baseUrl := settings.memory.mem0BaseUrl, key }
      (.ok service.store, world)
  | .sqlite =>
    match Index.openBelow system settings.core.dataDirectory world with
    | (.ok store, world) => (.ok store, world)
    | (.error failure, world) => (.error failure.message, world)

/-- The gateway that the settings choose. -/
def ofSystem (system : System σ) (settings : Settings) (mem0Key : Option Secret) (world : σ) :
    MemoryGateway σ × σ :=
  let (store, world) := chooseStore system settings mem0Key world
  (ofSettings settings.memory store, world)

end ToolAssistant.MemoryGateway
