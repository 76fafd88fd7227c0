import ToolAssistant.Http.Exchange
import ToolAssistant.Json.Record
import ToolAssistant.Secret
import ToolAssistant.Text.Scrub
import ToolAssistant.Tool.Basic

/-!
# The weather

The tool asks a weather service for the current conditions of a city.  The key of the service goes
with every request, so whatever the service says about a failure is scrubbed before it is passed on.
-/

namespace ToolAssistant.Weather

/-- The name of the tool. -/
def toolName : String := "get_weather"

/-- Access to the weather service. -/
structure Service (σ : Type) where
  client : Http.Client σ
  baseUrl : String
  units : String
  key : Secret
  timeout : Duration

/-- How long a request may take unless said otherwise. -/
def defaultTimeout : Duration := .ofSeconds 10

/-- The current conditions, as far as the service reports them. -/
structure Conditions where
  place : Option String
  temperature : Float
  feelsLike : Option Float
  humidity : Option Float
  windSpeed : Option Float
  descriptions : List String

/-! ## Reading what the service says -/

/-- A text that may be missing. -/
def optionalText (record : Json.Record Json.Source) (name : String) : Option (Option String) :=
  record.optional name (Json.Source.orNull Json.Source.string?)

/-- A number that may be missing. -/
def optionalFloat (record : Json.Record Json.Source) (name : String) : Option (Option Float) :=
  record.optional name (Json.Source.orNull Json.Source.float?)

/-- Reads the temperatures and the humidity. -/
def readings? (source : Json.Source) : Option (Float × Option Float × Option Float) := do
  let record ← Json.Source.record? ["temp", "feels_like", "humidity"] source
  some (← record.required "temp" Json.Source.float?, ← optionalFloat record "feels_like",
    ← optionalFloat record "humidity")

/-- Reads the description of a condition. -/
def description? (source : Json.Source) : Option String := do
  (← Json.Source.record? ["description"] source).required "description" Json.Source.string?

/-- Reads the speed of the wind. -/
def windSpeed? (source : Json.Source) : Option (Option Float) := do
  optionalFloat (← Json.Source.record? ["speed"] source) "speed"

/-- Reads the body of a response that reports the weather. -/
def Conditions.read? (body : String) : Option Conditions := do
  let source ← Json.Source.read? body
  let record ← Json.Source.record? ["name", "main", "weather", "wind"] source
  let place ← optionalText record "name"
  let (temperature, feelsLike, humidity) ← record.required "main" readings?
  let descriptions ← record.withDefault "weather" [] (Json.Source.listOf? description?)
  let windSpeed ← record.optional "wind" (Json.Source.orNull windSpeed?)
  some { place, temperature, feelsLike, humidity, windSpeed := windSpeed.join, descriptions }

/-- Reads the message in the body of a response that reports a failure. -/
def failureMessage? (body : String) : Option String := do
  let record ← Json.Source.record? ["message"] (← Json.Source.read? body)
  (← optionalText record "message")

/-! ## Asking -/

/-- A number that may be missing, as data. -/
def floatJson (value : Option Float) : Json :=
  value.elim .null .ofFloat

/-- The conditions of a city as data. -/
def Conditions.toJson (conditions : Conditions) (city units : String) : Json :=
  .ofFields
    [("city", .string (conditions.place.getD city)),
      ("temperature", .ofFloat conditions.temperature),
      ("feels_like", floatJson conditions.feelsLike), ("humidity", floatJson conditions.humidity),
      ("wind_speed", floatJson conditions.windSpeed),
      ("condition", .string (conditions.descriptions.head?.getD "unknown")),
      ("units", .string units)]

/-- The failure that a response amounts to which reports no success. -/
def refusal (city : String) (response : Http.Response) : Failure :=
  let said := Text.scrub ((failureMessage? response.text).getD response.statusText)
  .toolExecution
    (if response.status = 404 then "City '" ++ city ++ "' not found"
    else if response.status = 401 then "Weather service rejected the API key"
    else "Weather service error (" ++ toString response.status ++ "): " ++ said)

/-- What a response says about a city. -/
def report (city units : String) : Option Http.Response → Except Failure Json
  | none => .error (.toolExecution "Weather service unreachable: no response")
  | some response =>
    if !response.isSuccess then .error (refusal city response)
    else
      match Conditions.read? response.body with
      | some conditions => .ok (conditions.toJson city units)
      | none =>
        .error (.toolExecution "Unexpected weather response: the body does not report the weather")

namespace Service

variable {σ : Type}

/-- The address of the current conditions. -/
def address (service : Service σ) : String :=
  Http.Url.trimBase service.baseUrl ++ "/weather"

/-- The request for the conditions of a city. -/
def request (service : Service σ) (city : String) (url : Http.Url) : Http.Request where
  method := .get
  url :=
    url.withForm [("q", city), ("appid", service.key.exposed), ("units", service.units)]

/-- Asks for the current conditions of a city. -/
def current (service : Service σ) (city : String) : Action σ (Except Failure Json) :=
  let city := Text.trim city
  if city.isEmpty then Action.pure (.error (.toolArgument toolName "city must not be empty"))
  else fun world =>
    let (timed, world) := service.client.request service.address (service.request city) world
    ((timed.map (report city service.units)).deadline service.timeout
      (.error (.toolTimeout service.timeout)), world)

end Service

/-- The tool that asks a service for the weather. -/
def tool {σ : Type} (service : Service σ) : Tool σ where
  spec :=
    { name := toolName
      description :=
        "Get the current weather for a city: temperature, feels-like temperature, humidity, " ++
          "wind speed and a short condition description."
      schema :=
        Schema.empty.required "city" .string
          "City name, optionally with country code (e.g. \"Chandigarh\" or \"Paris,FR\")" }
  invoke args :=
    match args.string "city" with
    | .ok city => service.current city
    | .error failure => Action.pure (.error failure)

end ToolAssistant.Weather
