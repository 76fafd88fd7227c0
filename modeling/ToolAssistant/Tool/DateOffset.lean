import ToolAssistant.Calendar.Date
import ToolAssistant.Tool.Basic

/-!
# Date offsets

The tool tells the date that lies a number of days before or after today.
-/

namespace ToolAssistant.DateOffset

/-- The date a number of days from today. -/
def offset (today : Date) (days : Int) : Except Failure Date :=
  -- The size is one without a sign, so even the least signed word has one.
  let moved? := if 0 ≤ days then today.later? days.natAbs else today.earlier? days.natAbs
  match moved? with
  | some date => .ok date
  | none =>
    .error (.toolExecution
      (toString days ++ " days from " ++ today.text ++ " is out of range"))

/-- The tool that moves dates; `today` reads the calendar. -/
def tool {σ : Type} (today : σ → Date) : Tool σ where
  spec :=
    { name := "date_utility_tool"
      description := "Compute the calendar date (YYYY-MM-DD) a given number of days from today."
      schema :=
        Schema.empty.required "days" .integer
          "Number of days from today; negative values go back in time" }
  invoke args world :=
    let outcome := do
      return Json.string (← offset (today world) (← args.int64 "days")).text
    (.ends .zero outcome, world)

end ToolAssistant.DateOffset
