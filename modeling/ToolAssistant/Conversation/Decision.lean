import ToolAssistant.Conversation.Message
import ToolAssistant.Tool.Basic

/-!
# Decisions and the oracle

The oracle is a language model behind one question: given the conversation and the tools on offer,
what is next?  It answers with the final text or with tool calls to run, and it may fail.
-/

namespace ToolAssistant

/-- What the oracle decided to do next. -/
inductive Decision where
  | finalAnswer (text : String)
  | toolCalls (calls : List ToolCall)

/-- Why there is no decision. -/
inductive OracleError where
  | providerUnavailable (detail : String)
  | authenticationFailed (detail : String)
  | rateLimitExceeded
  | invalidRequest (detail : String)
  | networkError (detail : String)
  | timeout
  | parseError (detail : String)
  | protocol (detail : String)
  deriving DecidableEq, Repr

/-- The wording of an oracle's error. -/
def OracleError.message : OracleError → String
  | providerUnavailable detail => "Provider unavailable: " ++ detail
  | authenticationFailed detail => "Authentication failed: " ++ detail
  | rateLimitExceeded => "Rate limit exceeded"
  | invalidRequest detail => "Invalid request: " ++ detail
  | networkError detail => "Network error: " ++ detail
  | timeout => "Timeout"
  | parseError detail => "Parse error: " ++ detail
  | protocol detail => "Protocol error: " ++ detail

/-- An oracle's error as a failure of the turn. -/
def OracleError.toFailure (error : OracleError) : Failure :=
  .oracleUnavailable error.message

namespace Decision

/-- A decision to run tools; there has to be at least one call. -/
def ofCalls (calls : List ToolCall) : Except OracleError Decision :=
  if calls.isEmpty then .error (.protocol "decision contained no tool calls")
  else .ok (.toolCalls calls)

/-- A decision as data. -/
def toJson : Decision → Json
  | finalAnswer text => .ofFields [("type", .string "final_answer"), ("value", .string text)]
  | toolCalls calls =>
    .ofFields [("type", .string "tool_calls"), ("value", .array (calls.map ToolCall.toJson))]

/-- The two kinds of decision and how each is read. -/
def readers : List (String × (Json → Option Decision)) :=
  [("final_answer", fun value => value.string?.map finalAnswer),
    ("tool_calls", fun value => (Json.listOf? ToolCall.ofJson? value).map toolCalls)]

/-- Reads a decision. -/
def ofJson? (value : Json) : Option Decision := do
  let record ← Json.record? ["type", "value"] value
  let read ← record.required "type" (Json.oneOf? readers)
  record.required "value" read

end Decision

/-- A language model that decides what is next. -/
structure Oracle (σ : Type) where
  name : String
  decide : List Message → List ToolSpec → Action σ (Except OracleError Decision)

end ToolAssistant
