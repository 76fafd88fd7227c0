import ToolAssistant.Conversation.Message
import ToolAssistant.Settings.Data
import ToolAssistant.Tool.Basic

/-!
# Requests to the model

A conversation is told to the model as a list of entries, each of one role and with a list of
parts.  System messages go to a place of their own; the observations of one batch travel together in
a single entry.
-/

namespace ToolAssistant.Gemini

/-- An entry of the contents: who speaks, and the parts of what is said. -/
structure Entry where
  role : String
  parts : List Json

/-- A text part. -/
def textPart (text : String) : Json :=
  .ofFields [("text", .string text)]

/-- The part that issues a call. -/
def callPart (call : ToolCall) : Json :=
  .ofFields
    [("functionCall",
      .ofFields [("name", .string call.name), ("args", .object call.arguments)])]

/-- The name under which an observation is told. -/
def responseKey : String := "functionResponse"

/-- The part that tells an observation. -/
def responsePart (message : Message) : Json :=
  .ofFields
    [(responseKey,
      .ofFields
        [("name", .string (message.name.getD "")),
          ("response", .ofFields [("content", .string message.content)])])]

/-- The parts of an assistant's message: its text, if there is any, and its calls. -/
def assistantParts (message : Message) : List Json :=
  (if message.content.isEmpty then [] else [textPart message.content]) ++
    message.toolCalls.map callPart

/-- Does the entry tell observations? -/
def Entry.tellsResponses (entry : Entry) : Bool :=
  entry.role == "user" && (entry.parts.head?.bind (Json.field? responseKey)).isSome

/-- Adds an observation: to the last entry if that tells observations, else as a new one. -/
def addResponse (part : Json) : List Entry → List Entry
  | [] => [⟨"user", [part]⟩]
  | [last] =>
    if last.tellsResponses then [⟨last.role, last.parts ++ [part]⟩] else [last, ⟨"user", [part]⟩]
  | entry :: rest => entry :: addResponse part rest

/-- Adds a message to the entries. -/
def addMessage (entries : List Entry) (message : Message) : List Entry :=
  match message.role with
  | .system => entries
  | .user => entries ++ [⟨"user", [textPart message.content]⟩]
  | .assistant => entries ++ [⟨"model", assistantParts message⟩]
  | .tool => addResponse (responsePart message) entries

/-- The entries of a conversation. -/
def contents (messages : List Message) : List Entry :=
  messages.foldl addMessage []

/-- The system messages, in order. -/
def systemParts (messages : List Message) : List Json :=
  (messages.filter (·.role == .system)).map fun message => textPart message.content

/-- An entry as data. -/
def Entry.toJson (entry : Entry) : Json :=
  .ofFields [("role", .string entry.role), ("parts", .array entry.parts)]

/-- A tool as it is declared to the model. -/
def declaration (spec : ToolSpec) : Json :=
  .ofFields
    [("name", .string spec.name), ("description", .string spec.description),
      ("parameters", spec.schema.toJsonSchema)]

/-- How the model is to sample. -/
def generationConfig (model : ModelSettings) : Json :=
  .ofFields
    [("temperature", .ofFloat model.temperature), ("topP", .ofFloat model.topP),
      ("topK", .ofNat model.topK), ("maxOutputTokens", .ofNat model.maxOutputTokens)]

/-- The body of the request that asks for a decision. -/
def payload (model : ModelSettings) (messages : List Message) (catalogue : List ToolSpec) : Json :=
  let system := systemParts messages
  let instruction :=
    if system.isEmpty then [] else [("systemInstruction", Json.ofFields [("parts", .array system)])]
  let tools :=
    if catalogue.isEmpty then []
    else
      [("tools",
        Json.array [.ofFields [("functionDeclarations", .array (catalogue.map declaration))]])]
  .ofFields
    ([("contents", Json.array ((contents messages).map Entry.toJson))] ++ instruction ++ tools ++
      [("generationConfig", generationConfig model)])

end ToolAssistant.Gemini
