import ToolAssistant.Tool.Basic
import ToolAssistant.Tool.Call

/-!
# The tool registry

The registry keeps tools in the order in which they were registered, which is also the order of the
catalogue; no name is registered twice.  `resolve` turns any call into exactly one result: an
unknown tool, arguments that do not fit, a failing tool and one that takes too long all become
failures that the oracle can read.
-/

namespace ToolAssistant

/-- The tools on offer. -/
structure Registry (σ : Type) where
  tools : List (Tool σ)

namespace Registry

variable {σ : Type}

/-- The registry without tools. -/
def empty : Registry σ := ⟨[]⟩

/-- The names of the tools, in order. -/
def names (registry : Registry σ) : List String :=
  registry.tools.map (·.spec.name)

/-- What the oracle is told about each tool, in order. -/
def catalogue (registry : Registry σ) : List ToolSpec :=
  registry.tools.map (·.spec)

/-- How many tools there are. -/
def size (registry : Registry σ) : Nat :=
  registry.tools.length

/-- The tool of a name. -/
def find? (registry : Registry σ) (name : String) : Option (Tool σ) :=
  registry.tools.find? (·.spec.name == name)

/-- Adds a tool, unless one of its name is there. -/
def register (registry : Registry σ) (tool : Tool σ) : Except Failure (Registry σ) :=
  if (registry.find? tool.spec.name).isSome then .error (.duplicateTool tool.spec.name)
  else .ok ⟨registry.tools ++ [tool]⟩

/-- Adds tools one after another. -/
def registerAll (registry : Registry σ) (tools : List (Tool σ)) : Except Failure (Registry σ) :=
  tools.foldlM register registry

/-- The failure for a name that no tool has. -/
def unknownTool (registry : Registry σ) (name : String) : Failure :=
  .toolNotFound ("'" ++ name ++ "'. Available tools: " ++ String.intercalate ", " registry.names)

/-- What a call comes to: the output of the one tool that it invokes, or why there is none. -/
def perform (registry : Registry σ) (limit : Duration) (call : ToolCall) (world : σ) :
    Except Failure Json × σ :=
  match registry.find? call.name with
  | none => (.error (registry.unknownTool call.name), world)
  | some tool =>
    match tool.spec.schema.validate tool.spec.name call.arguments with
    | .error failure => (.error failure, world)
    | .ok args =>
      let (outcome, world) := (tool.invoke args).within limit world
      (outcome.getD (.error (.toolTimeout limit)), world)

/-- Resolves a call into its result. -/
def resolve (registry : Registry σ) (limit : Duration) (call : ToolCall) (world : σ) :
    ToolResult × σ :=
  match registry.perform limit call world with
  | (.ok output, world) => (.success call output, world)
  | (.error failure, world) => (.failure call failure, world)

end Registry

end ToolAssistant
