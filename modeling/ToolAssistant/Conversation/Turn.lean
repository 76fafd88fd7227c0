import ToolAssistant.Calendar.Instant
import ToolAssistant.Tool.Call

/-!
# Turns

A turn is one message of the user with the answer that it got, the calls that were made on the way
and how the work ended.
-/

namespace ToolAssistant

/-- A call with its result. -/
structure Exchange where
  call : ToolCall
  result : ToolResult

namespace Exchange

/-- An exchange as data. -/
def toJson (exchange : Exchange) : Json :=
  .ofFields [("request", exchange.call.toJson), ("result", exchange.result.toJson)]

/-- Reads an exchange. -/
def ofJson? (value : Json) : Option Exchange := do
  let record ← Json.record? ["request", "result"] value
  some
    { call := ← record.required "request" ToolCall.ofJson?
      result := ← record.required "result" ToolResult.ofJson? }

end Exchange

/-- A completed turn. -/
structure Turn where
  id : String
  userInput : String
  answer : String
  exchanges : List Exchange
  iterations : Nat
  incomplete : Bool
  timestamp : Instant

namespace Turn

/-- The turn as a single document. -/
def transcript (turn : Turn) : String :=
  "User: " ++ turn.userInput ++ "\nAssistant: " ++ turn.answer

/-- The names of the tools that were called, in order. -/
def toolsUsed (turn : Turn) : List String :=
  turn.exchanges.map (·.call.name)

/-- A turn as data. -/
def toJson (turn : Turn) : Json :=
  .ofFields
    [("id", .string turn.id), ("user_input", .string turn.userInput),
      ("answer", .string turn.answer),
      ("exchanges", .array (turn.exchanges.map Exchange.toJson)),
      ("iterations", .ofNat turn.iterations), ("incomplete", .bool turn.incomplete),
      ("timestamp", .string turn.timestamp.text)]

/-- Reads a turn. -/
def ofJson? (value : Json) : Option Turn := do
  let names :=
    ["id", "user_input", "answer", "exchanges", "iterations", "incomplete", "timestamp"]
  let record ← Json.record? names value
  some
    { id := ← record.required "id" Json.string?
      userInput := ← record.required "user_input" Json.string?
      answer := ← record.required "answer" Json.string?
      exchanges := ← record.required "exchanges" (Json.listOf? Exchange.ofJson?)
      iterations := ← record.required "iterations" Json.uint64?
      incomplete := ← record.required "incomplete" Json.bool?
      timestamp := ← record.required "timestamp" fun value => value.string?.bind Instant.read? }

end Turn

end ToolAssistant
