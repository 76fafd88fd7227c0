import ToolAssistant.Failure
import ToolAssistant.Json.Record
import ToolAssistant.Json.Writer

/-!
# Tool calls and their results

A `ToolCall` is what the oracle asks for; nothing says that the tool exists or that the arguments
fit.  A `ToolResult` answers one call, with an output or with a failure that the oracle can read.
Both have a JSON form that reads back.
-/

namespace ToolAssistant

/-- A call that the oracle asks for. -/
structure ToolCall where
  id : String
  name : String
  arguments : Fields

namespace ToolCall

/-- A call with the fields of an object as its arguments; any other value gives none. -/
def ofArguments (id name : String) (arguments : Json) : ToolCall :=
  ⟨id, name, (arguments.object?).getD []⟩

/-- A call as data. -/
def toJson (call : ToolCall) : Json :=
  .ofFields
    [("id", .string call.id), ("name", .string call.name), ("arguments", .object call.arguments)]

/-- Reads a call. -/
def ofJson? (value : Json) : Option ToolCall := do
  let record ← Json.record? ["id", "name", "arguments"] value
  some
    { id := ← record.required "id" Json.string?
      name := ← record.required "name" Json.string?
      arguments := ← record.withDefault "arguments" [] Json.object? }

end ToolCall

/-- Why a call failed. -/
inductive CallFailure.Kind where
  | notFound
  | invalidArguments
  | evaluation
  | execution
  | timeout
  deriving DecidableEq, Repr

/-- The name of a kind of failure. -/
def CallFailure.Kind.name : CallFailure.Kind → String
  | notFound => "not_found"
  | invalidArguments => "invalid_arguments"
  | evaluation => "evaluation"
  | execution => "execution"
  | timeout => "timeout"

/-- Every kind under its name. -/
def CallFailure.Kind.choices : List (String × CallFailure.Kind) :=
  [notFound, invalidArguments, evaluation, execution, timeout].map fun kind => (kind.name, kind)

/-- Reads the name of a kind; as the only key of an object it may also have an empty object. -/
def CallFailure.Kind.ofJson? : Json → Option CallFailure.Kind
  | .object [(name, .object [])] => choices.lookup name
  | value => Json.oneOf? choices value

/-- A failed call, as the oracle is told of it. -/
structure CallFailure where
  kind : CallFailure.Kind
  message : String
  deriving DecidableEq, Repr

/-- The kind of call failure that a failure amounts to. -/
def Failure.callKind : Failure → CallFailure.Kind
  | .toolNotFound _ => .notFound
  | .toolArgument .. => .invalidArguments
  | .evaluation _ => .evaluation
  | .toolTimeout _ => .timeout
  | _ => .execution

/-- A failure, as the oracle is told of it. -/
def Failure.toCallFailure (failure : Failure) : CallFailure :=
  ⟨failure.callKind, failure.message⟩

/-- A call failure as data. -/
def CallFailure.toJson (failure : CallFailure) : Json :=
  .ofFields [("kind", .string failure.kind.name), ("message", .string failure.message)]

/-- What came of a call: an output or a failure, never both. -/
inductive ToolOutcome where
  | success (output : Json)
  | failure (cause : CallFailure)

namespace ToolOutcome

/-- An outcome as data; the status says which one it is. -/
def toJson : ToolOutcome → Json
  | success output => .ofFields [("status", .string "success"), ("output", output)]
  | failure cause =>
    .ofFields
      [("status", .string "failure"), ("kind", .string cause.kind.name),
        ("message", .string cause.message)]

/-- Reads the rest of an outcome of a known status. -/
def ofRest? (status : String) (rest : Json) : Option ToolOutcome :=
  match status with
  | "success" => do
    let record ← Json.record? ["output"] rest
    some (success (← record.required "output" some))
  | "failure" => do
    let record ← Json.record? ["kind", "message"] rest
    some (failure
      { kind := ← record.required "kind" CallFailure.Kind.ofJson?
        message := ← record.required "message" Json.string? })
  | _ => none

/-- Reads an outcome; in an array the status comes first. -/
def ofJson? : Json → Option ToolOutcome
  | .object fields => do
    ofRest? (← (Fields.get? "status" fields).bind Json.string?) (.object fields)
  | .array (status :: rest) => do ofRest? (← status.string?) (.array rest)
  | _ => none

end ToolOutcome

/-- The result of one call. -/
structure ToolResult where
  callId : String
  toolName : String
  outcome : ToolOutcome

namespace ToolResult

/-- The result of a call that came to an output. -/
def success (call : ToolCall) (output : Json) : ToolResult :=
  ⟨call.id, call.name, .success output⟩

/-- The result of a call that failed. -/
def failure (call : ToolCall) (cause : Failure) : ToolResult :=
  ⟨call.id, call.name, .failure cause.toCallFailure⟩

/-- The output, if there is one. -/
def output? (result : ToolResult) : Option Json :=
  match result.outcome with
  | .success output => some output
  | .failure _ => none

/-- The failure, if there is one. -/
def failure? (result : ToolResult) : Option CallFailure :=
  match result.outcome with
  | .success _ => none
  | .failure cause => some cause

/-- Did the call come to an output? -/
def isSuccess (result : ToolResult) : Bool :=
  result.output?.isSome

/-- The result as the oracle reads it: a text as it is, any other output as compact JSON. -/
def observation (result : ToolResult) : String :=
  match result.outcome with
  | .success (.string text) => text
  | .success output => output.compact
  | .failure cause => "ERROR (" ++ cause.kind.name ++ "): " ++ cause.message

/-- A result as data. -/
def toJson (result : ToolResult) : Json :=
  .ofFields
    [("call_id", .string result.callId), ("tool_name", .string result.toolName),
      ("outcome", result.outcome.toJson)]

/-- Reads a result. -/
def ofJson? (value : Json) : Option ToolResult := do
  let record ← Json.record? ["call_id", "tool_name", "outcome"] value
  some
    { callId := ← record.required "call_id" Json.string?
      toolName := ← record.required "tool_name" Json.string?
      outcome := ← record.required "outcome" ToolOutcome.ofJson? }

end ToolResult

end ToolAssistant
