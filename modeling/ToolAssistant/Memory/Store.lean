import ToolAssistant.Conversation.Turn
import ToolAssistant.World.Action

/-!
# Memory stores

A store keeps the turns of users and finds those that bear on a query.  A snippet is what a search
brings back.
-/

namespace ToolAssistant

/-- A piece of what a user said or was told before. -/
structure Snippet where
  text : String
  score : Float
  userId : String

namespace Snippet

/-- A snippet as data. -/
def toJson (snippet : Snippet) : Json :=
  .ofFields
    [("text", .string snippet.text), ("score", .ofDouble snippet.score),
      ("user_id", .string snippet.userId)]

/-- Reads a snippet. -/
def ofJson? (value : Json) : Option Snippet := do
  let record ← Json.record? ["text", "score", "user_id"] value
  some
    { text := ← record.required "text" Json.string?
      score := ← record.required "score" Json.float?
      userId := ← record.required "user_id" Json.string? }

end Snippet

/-- A memory store in a world with states in `σ`.  `search` is given a query, a user and how many
snippets to bring at most, the most relevant first. -/
structure MemoryStore (σ : Type) where
  name : String
  search : String → String → Nat → Action σ (Except Failure (List Snippet))
  add : Turn → String → Action σ (Except Failure Unit)

end ToolAssistant
