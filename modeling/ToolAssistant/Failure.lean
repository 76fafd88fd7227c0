import ToolAssistant.Duration

/-!
# Failures

Everything that can go wrong, by its cause.  A failure of one tool call becomes a result that the
oracle reads; a failure of memory becomes a missing section of the prompt.  Only two kinds get any
further: a faulty configuration keeps a session from starting, and an unavailable oracle ends the
turn.
-/

namespace ToolAssistant

/-- What went wrong. -/
inductive Failure where
  | configuration (detail : String)
  | evaluation (detail : String)
  | toolNotFound (detail : String)
  | toolArgument (tool reason : String)
  | toolExecution (detail : String)
  | toolTimeout (limit : Duration)
  | duplicateTool (name : String)
  | memoryUnavailable (detail : String)
  | oracleUnavailable (detail : String)
  | iterationLimit (count : Nat)
  | database (detail : String)
  | keyring (detail : String)
  | network (detail : String)
  | io (detail : String)
  deriving DecidableEq, Repr

namespace Failure

/-- The wording of a failure. -/
def message : Failure → String
  | configuration detail => "Configuration error: " ++ detail
  | evaluation detail => "Evaluation error: " ++ detail
  | toolNotFound detail => "Tool not found: " ++ detail
  | toolArgument tool reason => "Invalid arguments for tool '" ++ tool ++ "': " ++ reason
  | toolExecution detail => "Tool execution failed: " ++ detail
  | toolTimeout limit => "Tool timed out after " ++ limit.text
  | duplicateTool name => "Duplicate tool name: " ++ name
  | memoryUnavailable detail => "Memory unavailable: " ++ detail
  | oracleUnavailable detail => "Decision oracle unavailable: " ++ detail
  | iterationLimit count =>
    "Orchestration limit exceeded after " ++ toString count ++ " iterations"
  | database detail => "Database error: " ++ detail
  | keyring detail => "Keyring error: " ++ detail
  | network detail => "Network error: " ++ detail
  | io detail => "IO error: " ++ detail

/-- What the user may do about a failure.  A hint never holds a secret or a raw payload. -/
def hint : Failure → String
  | configuration _ => "Check your config.toml and required API keys"
  | evaluation _ => "The expression could not be evaluated. Use numbers and + - * / % ** only"
  | toolNotFound _ => "The requested tool is not available"
  | toolArgument .. => "The tool was called with invalid arguments"
  | toolExecution _ => "Tool operation failed. Results may be incomplete"
  | toolTimeout _ => "A tool took too long to respond. Try again"
  | duplicateTool _ => "Two tools share the same name. Check tool registration"
  | memoryUnavailable _ =>
    "Long-term memory is unavailable. Answers will not be personalized"
  | oracleUnavailable _ =>
    "The language model is unavailable. Check your network and try again"
  | iterationLimit _ => "Request too complex. Try breaking it into smaller steps"
  | database _ => "Local memory database operation failed"
  | keyring _ => "Failed to access secure storage. Check system keychain"
  | network _ => "Network operation failed. Check your connection"
  | io _ => "File system operation failed"

/-- Does the failure end at most the current turn? -/
def isRecoverable : Failure → Bool
  | configuration _ | duplicateTool _ | keyring _ => false
  | _ => true

end Failure

end ToolAssistant
