import ToolAssistant.Tool.Schema
import ToolAssistant.World.Action

/-!
# Tools

A tool is what the oracle is told about it and what it does with arguments that its schema has
accepted.
-/

namespace ToolAssistant

/-- What the oracle is told about a tool. -/
structure ToolSpec where
  name : String
  description : String
  schema : Schema
  deriving DecidableEq, Repr

/-- A tool's entry in the catalogue as data. -/
def ToolSpec.toJson (spec : ToolSpec) : Json :=
  .ofFields
    [("name", .string spec.name), ("description", .string spec.description),
      ("schema", spec.schema.toJson)]

/-- A tool in a world with states in `σ`. -/
structure Tool (σ : Type) where
  spec : ToolSpec
  invoke : Args → Action σ (Except Failure Json)

/-- A tool that computes its output from its arguments alone, in no time. -/
def Tool.ofFunction {σ : Type} (spec : ToolSpec) (compute : Args → Except Failure Json) :
    Tool σ :=
  ⟨spec, fun args => Action.pure (compute args)⟩

end ToolAssistant
