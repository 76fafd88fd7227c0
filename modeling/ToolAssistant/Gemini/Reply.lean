import ToolAssistant.Conversation.Decision
import ToolAssistant.Text.Blank

/-!
# Replies of the model

A reply offers candidates, of which the first counts.  If any of its parts issues a call, the
decision is to run all the calls; otherwise it is the text of the parts put together.  Calls that
come without an identifier are given a fresh one.
-/

namespace ToolAssistant.Gemini

variable {σ : Type}

/-- Follows a path of keys into a value. -/
def path? (keys : List String) (value : Json) : Option Json :=
  keys.foldlM (fun value key => value.field? key) value

/-- The parts of the first candidate. -/
def candidateParts (reply : Json) : Except OracleError (List Json) :=
  match ((reply.field? "candidates").bind Json.array?).bind List.head? with
  | none =>
    let reason := ((path? ["promptFeedback", "blockReason"] reply).bind Json.string?)
    .error (.protocol ("No candidates in response (" ++ reason.getD "no candidates" ++ ")"))
  | some candidate =>
    match (path? ["content", "parts"] candidate).bind Json.array? with
    | some parts => .ok parts
    | none =>
      let reason := (candidate.field? "finishReason").bind Json.string?
      .error (.protocol
        ("No content in candidate (finish reason " ++ reason.getD "unknown" ++ ")"))

/-- Reads an issued call; `fresh` gives the identifier if there is none. -/
def readCall (fresh : σ → String × σ) (call : Json) (world : σ) :
    Except OracleError ToolCall × σ :=
  match (call.field? "name").bind Json.string? with
  | none => (.error (.protocol "functionCall without a name"), world)
  | some name =>
    let (id, world) :=
      match (call.field? "id").bind Json.string? with
      | some id => (id, world)
      | none =>
        let (id, world) := fresh world
        ("call_" ++ id, world)
    (.ok (.ofArguments id name ((call.field? "args").getD .null)), world)

/-- The issued calls among the parts, in order. -/
def issuedCalls (parts : List Json) : List Json :=
  parts.filterMap (Json.field? "functionCall")

/-- Reads issued calls up to the first faulty one. -/
def readCalls (fresh : σ → String × σ) : List Json → σ → Except OracleError (List ToolCall) × σ
  | [], world => (.ok [], world)
  | call :: rest, world =>
    match readCall fresh call world with
    | (.error error, world) => (.error error, world)
    | (.ok call, world) =>
      match readCalls fresh rest world with
      | (.error error, world) => (.error error, world)
      | (.ok calls, world) => (.ok (call :: calls), world)

/-- The text of the parts put together. -/
def answerText (parts : List Json) : String :=
  String.join (parts.filterMap fun part => (part.field? "text").bind Json.string?)

/-- The decision that the parts of a candidate amount to. -/
def decideParts (fresh : σ → String × σ) (parts : List Json) (world : σ) :
    Except OracleError Decision × σ :=
  if (issuedCalls parts).isEmpty then
    let text := Text.trim (answerText parts)
    (if text.isEmpty then .error (.protocol "Empty response") else .ok (.finalAnswer text), world)
  else
    match readCalls fresh (issuedCalls parts) world with
    | (.ok calls, world) => (Decision.ofCalls calls, world)
    | (.error error, world) => (.error error, world)

/-- The decision that a reply amounts to. -/
def readReply (fresh : σ → String × σ) (reply : Json) (world : σ) :
    Except OracleError Decision × σ :=
  match candidateParts reply with
  | .error error => (.error error, world)
  | .ok parts => decideParts fresh parts world

end ToolAssistant.Gemini
