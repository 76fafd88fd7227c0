import ToolAssistant.Memory.Store
import ToolAssistant.Text.Blank

/-!
# The memory gateway

Memory is an enhancement: nothing here ever fails a turn.  The gateway leaves out queries that are
too short, bounds the time and the number of snippets, and reports a store that is missing, failing
or slow as a value.
-/

namespace ToolAssistant

/-- What came of looking something up. -/
inductive Retrieval where
  /-- The query was too short; the store was not asked. -/
  | skipped
  /-- The store could not be asked. -/
  | unavailable (reason : String)
  /-- The store answered. -/
  | retrieved (snippets : List Snippet)

/-- What came of storing a turn. -/
inductive StoreOutcome where
  | stored
  | dropped (reason : String)

/-- Access to a store, or the reason why there is none. -/
structure MemoryGateway (σ : Type) where
  store : Except String (MemoryStore σ)
  minQueryChars : Nat
  maxSnippets : Nat
  timeout : Duration

namespace MemoryGateway

variable {σ : Type}

/-- Is there a store? -/
def isEnabled (gateway : MemoryGateway σ) : Bool :=
  gateway.store.isOk

/-- The name of the store. -/
def backendName (gateway : MemoryGateway σ) : String :=
  match gateway.store with
  | .ok store => store.name
  | .error _ => "none"

/-- The reason why nothing came within the time limit. -/
def lateReason (gateway : MemoryGateway σ) : String :=
  "timed out after " ++ gateway.timeout.text

/-- Looks up what bears on a query. -/
def retrieve (gateway : MemoryGateway σ) (query userId : String) (world : σ) : Retrieval × σ :=
  let query := Text.trim query
  if query.length < gateway.minQueryChars then (.skipped, world)
  else
    match gateway.store with
    | .error reason => (.unavailable reason, world)
    | .ok store =>
      match (store.search query userId gateway.maxSnippets).within gateway.timeout world with
      | (some (.ok snippets), world) => (.retrieved (snippets.take gateway.maxSnippets), world)
      | (some (.error failure), world) => (.unavailable failure.message, world)
      | (none, world) => (.unavailable gateway.lateReason, world)

/-- Stores a completed turn. -/
def remember (gateway : MemoryGateway σ) (turn : Turn) (userId : String) (world : σ) :
    StoreOutcome × σ :=
  match gateway.store with
  | .error reason => (.dropped reason, world)
  | .ok store =>
    match (store.add turn userId).within gateway.timeout world with
    | (some (.ok ()), world) => (.stored, world)
    | (some (.error failure), world) => (.dropped failure.message, world)
    | (none, world) => (.dropped gateway.lateReason, world)

end MemoryGateway

end ToolAssistant
