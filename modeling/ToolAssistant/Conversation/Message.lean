import ToolAssistant.Tool.Call

/-!
# Messages of a conversation

What the oracle is shown is a list of messages: the system prompt, the user's text, the tool calls
that it issued and one observation for each of them.
-/

namespace ToolAssistant

/-- Who a message comes from. -/
inductive Role where
  | user
  | assistant
  | system
  | tool
  deriving DecidableEq, Repr

/-- The name of a role. -/
def Role.name : Role → String
  | user => "user"
  | assistant => "assistant"
  | system => "system"
  | tool => "tool"

/-- Reads the name of a role. -/
def Role.ofJson? : Json → Option Role :=
  Json.oneOf? ([user, assistant, system, tool].map fun role => (role.name, role))

/-- A message of a conversation. -/
structure Message where
  role : Role
  content : String
  toolCalls : List ToolCall := []
  toolCallId : Option String := none
  name : Option String := none

namespace Message

/-- A message of the user. -/
def user (content : String) : Message := { role := .user, content }

/-- A text of the assistant. -/
def assistant (content : String) : Message := { role := .assistant, content }

/-- A system prompt. -/
def system (content : String) : Message := { role := .system, content }

/-- The assistant's message that issues tool calls. -/
def issuing (calls : List ToolCall) : Message :=
  { role := .assistant, content := "", toolCalls := calls }

/-- The message that tells the oracle the result of one call. -/
def observing (result : ToolResult) : Message :=
  { role := .tool
    content := result.observation
    toolCallId := some result.callId
    name := some result.toolName }

/-- Is this an assistant's message that issues tool calls? -/
def opensBlock (message : Message) : Bool :=
  message.role == .assistant && !message.toolCalls.isEmpty

/-- A field that is left out when it has no value. -/
def optionalField (key : String) (value : Option String) : List (String × Json) :=
  value.toList.map fun text => (key, .string text)

/-- A message as data; what is empty is left out. -/
def toJson (message : Message) : Json :=
  let calls :=
    if message.toolCalls.isEmpty then []
    else [("tool_calls", Json.array (message.toolCalls.map ToolCall.toJson))]
  .ofFields
    ([("role", .string message.role.name), ("content", .string message.content)] ++ calls ++
      optionalField "tool_call_id" message.toolCallId ++ optionalField "name" message.name)

/-- Reads a message. -/
def ofJson? (value : Json) : Option Message := do
  let record ← Json.record? ["role", "content", "tool_calls", "tool_call_id", "name"] value
  some
    { role := ← record.required "role" Role.ofJson?
      content := ← record.required "content" Json.string?
      toolCalls := ← record.withDefault "tool_calls" [] (Json.listOf? ToolCall.ofJson?)
      toolCallId := ← record.optional "tool_call_id" (Json.orNull Json.string?)
      name := ← record.optional "name" (Json.orNull Json.string?) }

end Message

end ToolAssistant
