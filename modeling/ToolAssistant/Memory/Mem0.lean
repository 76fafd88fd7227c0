import ToolAssistant.Http.Exchange
import ToolAssistant.Memory.Store
import ToolAssistant.Secret
import ToolAssistant.Text.Scrub

/-!
# The hosted memory store

Turns are kept by a web service.  A search is answered with a list of memories, either bare or under
a field of its own.  Whatever the service says about a failure is scrubbed before it is passed on.
-/

namespace ToolAssistant.Mem0

/-- Access to the hosted store. -/
structure Service (σ : Type) where
  client : Http.Client σ
  baseUrl : String
  key : Secret

/-! ## Reading what the service says -/

/-- Reads a memory; without a user of its own it belongs to the one who asked. -/
def memory? (userId : String) (source : Json.Source) : Option Snippet := do
  let record ← Json.Source.record? ["memory", "score", "user_id"] source
  let text ← record.required "memory" Json.Source.string?
  let score ← record.withDefault "score" none (Json.Source.orNull Json.Source.float?)
  let owner ← record.withDefault "user_id" none (Json.Source.orNull Json.Source.string?)
  some { text, score := score.getD 0.0, userId := owner.getD userId }

/-- Reads a list of memories, bare or under the field `results`. -/
def memories? (userId : String) (source : Json.Source) : Option (List Snippet) :=
  match Json.Source.listOf? (memory? userId) source, source with
  | some snippets, _ => some snippets
  | none, .object _ => do
    let record ← Json.Source.record? ["results"] source
    record.required "results" (Json.Source.listOf? (memory? userId))
  | none, _ => none

/-- Reads the body of a response to a search. -/
def readBody? (userId body : String) : Option (List Snippet) := do
  let source ← Json.Source.read? body
  -- What stands in unknown fields has to make sense as well.
  let _ ← source.value?
  memories? userId source

/-! ## Asking -/

/-- The body of a search. -/
def searchBody (query userId : String) (limit : Nat) : Json :=
  .ofFields [("query", .string query), ("user_id", .string userId), ("limit", .ofNat limit)]

/-- A message as the service is told of it. -/
def messageBody (role content : String) : Json :=
  .ofFields [("role", .string role), ("content", .string content)]

/-- The body that hands over a turn. -/
def turnBody (turn : Turn) (userId : String) : Json :=
  .ofFields
    [("messages",
        .array [messageBody "user" turn.userInput, messageBody "assistant" turn.answer]),
      ("user_id", .string userId),
      ("metadata", .ofFields
        [("turn_id", .string turn.id), ("tools", .ofStrings turn.toolsUsed),
          ("incomplete", .bool turn.incomplete)])]

/-- A response that reports success, or the failure that it amounts to. -/
def accepted : Option Http.Response → Except Failure Http.Response
  | none => .error (.memoryUnavailable "error sending request")
  | some response =>
    if response.isSuccess then .ok response
    else
      .error (.memoryUnavailable
        ("Mem0 API error (" ++ response.statusText ++ "): " ++ Text.scrub response.text))

/-- What a response says to a search. -/
def found (userId : String) (response : Option Http.Response) : Except Failure (List Snippet) := do
  let response ← accepted response
  match readBody? userId response.body with
  | some snippets => .ok snippets
  | none =>
    .error (.memoryUnavailable "Unexpected Mem0 response: the body holds no list of memories")

namespace Service

variable {σ : Type}

/-- Sends a body to a path of the service. -/
def post (service : Service σ) (path : String) (body : Json) : Action σ (Option Http.Response) :=
  service.client.request (Http.Url.trimBase service.baseUrl ++ path) fun url =>
    { method := .post, url, authorization := some ("Token " ++ service.key.exposed)
      body := some body }

/-- The service as a memory store. -/
def store (service : Service σ) : MemoryStore σ where
  name := "mem0"
  search query userId limit :=
    (service.post "/v1/memories/search/" (searchBody query userId limit)).map (found userId)
  add turn userId :=
    (service.post "/v1/memories/" (turnBody turn userId)).map fun response =>
      (accepted response).map fun _ => ()

end Service

end ToolAssistant.Mem0
