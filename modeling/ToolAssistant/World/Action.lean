import ToolAssistant.Duration

/-!
# Actions on the outside world

Whatever the program asks of the world (a decision of a language model, a tool's work, a search in
a memory store) is an `Action`: it leaves the world in a new state and either comes to an outcome
after some time or never ends.  Time is what the action says it took.  An action may be cut off at a
time limit; what it did to the world stays done.
-/

namespace ToolAssistant

/-- What came of something that takes time. -/
inductive Timed (α : Type) where
  /-- It came to an outcome after some time. -/
  | ends (duration : Duration) (outcome : α)
  /-- It goes on for ever. -/
  | never

namespace Timed

variable {α β : Type}

/-- The same course of time with another outcome. -/
def map (f : α → β) : Timed α → Timed β
  | ends duration outcome => .ends duration (f outcome)
  | never => .never

/-- The outcome, if there ever is one. -/
def outcome? : Timed α → Option α
  | ends _ outcome => some outcome
  | never => none

/-- The outcome, if it came within the limit; just at the limit is within it. -/
def within (limit : Duration) : Timed α → Option α
  | ends duration outcome => if duration ≤ limit then some outcome else none
  | never => none

/-- Gives up at the limit with the outcome `late`. -/
def deadline (limit : Duration) (late : α) : Timed α → Timed α
  | ends duration outcome => if duration ≤ limit then .ends duration outcome else .ends limit late
  | never => .ends limit late

end Timed

/-- Something done to a world with states in `σ`. -/
abbrev Action (σ α : Type) := σ → Timed α × σ

namespace Action

variable {σ α β : Type}

/-- An action that takes no time and leaves the world alone. -/
def pure (outcome : α) : Action σ α := fun world => (.ends .zero outcome, world)

/-- An action whose outcome is looked at afterwards. -/
def map (f : α → β) (action : Action σ α) : Action σ β := fun world =>
  let (timed, world) := action world
  (timed.map f, world)

/-- An action cut off at a limit. -/
def within (limit : Duration) (action : Action σ α) (world : σ) : Option α × σ :=
  let (timed, world) := action world
  (timed.within limit, world)

end Action

end ToolAssistant
