import ToolAssistant.Gemini.Payload
import ToolAssistant.Gemini.Reply
import ToolAssistant.Http.Exchange
import ToolAssistant.Secret
import ToolAssistant.Text.Scrub

/-!
# The model as an oracle

Asks the model over the web.  Whatever the service says about a failure is scrubbed before it is
passed on.
-/

namespace ToolAssistant.Gemini

/-- Access to the model. -/
structure Service (σ : Type) where
  client : Http.Client σ
  settings : ModelSettings
  key : Secret
  fresh : σ → String × σ

/-- The error that a response amounts to which reports no success. -/
def refusal (response : Http.Response) : OracleError :=
  let said := Text.scrub response.text
  if response.status = 400 ∨ response.status = 404 then .invalidRequest said
  else if response.status = 429 then .rateLimitExceeded
  else if response.status = 401 ∨ response.status = 403 then .authenticationFailed said
  else .providerUnavailable ("Gemini API error (" ++ response.statusText ++ "): " ++ said)

namespace Service

variable {σ : Type}

/-- The address that decisions are asked of. -/
def address (service : Service σ) : String :=
  Http.Url.trimBase service.settings.baseUrl ++ "/models/" ++ service.settings.model ++
    ":generateContent"

/-- The request for a decision. -/
def request (service : Service σ) (messages : List Message) (catalogue : List ToolSpec)
    (url : Http.Url) : Http.Request where
  method := .post
  url := url
  apiKey := some service.key.exposed
  body := some (payload service.settings messages catalogue)

/-- The decision that a response amounts to. -/
def readResponse (service : Service σ) (response : Http.Response) (world : σ) :
    Except OracleError Decision × σ :=
  if !response.isSuccess then (.error (refusal response), world)
  else
    match Json.read? response.body with
    | none => (.error (.parseError "the reply is not valid JSON"), world)
    | some reply => readReply service.fresh reply world

/-- Asks the model for a decision. -/
def decide (service : Service σ) (messages : List Message) (catalogue : List ToolSpec) :
    Action σ (Except OracleError Decision) := fun world =>
  match service.client.request service.address (service.request messages catalogue) world with
  | (.never, world) => (.never, world)
  | (.ends duration none, world) =>
    (.ends duration (.error (.networkError "no response from the model service")), world)
  | (.ends duration (some response), world) =>
    let (decision, world) := service.readResponse response world
    (.ends duration decision, world)

/-- The model as an oracle. -/
def oracle (service : Service σ) : Oracle σ where
  name := "gemini"
  decide := service.decide

end Service

end ToolAssistant.Gemini
