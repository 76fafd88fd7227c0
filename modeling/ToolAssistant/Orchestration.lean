import ToolAssistant.Conversation.Decision
import ToolAssistant.Conversation.Turn
import ToolAssistant.Conversation.Window
import ToolAssistant.Tool.Registry

/-!
# The orchestration loop

One turn alternates between asking the oracle and running the tools that it asks for.  It ends with
the first final answer.  Failing tools are observations like any other; only an oracle that gives no
usable decision ends the turn with a failure.  After a set number of batches the turn ends with an
answer put together from the results so far.

## Strategy

The loop recurses on how many more batches may follow the next one, so it is structural and needs no
fuel of its own.
-/

namespace ToolAssistant

/-- In which order the calls of a concurrent batch get to act on the world. -/
structure Schedule where
  order : Nat → List Nat
  order_perm : ∀ n, (order n).Perm (List.range n)

/-- The calls act in the order in which they were issued. -/
def Schedule.inOrder : Schedule := ⟨List.range, fun _ => .refl _⟩

/-- The bounds of a turn. -/
structure TurnLimits where
  maxIterations : Nat
  oracleTimeout : Duration
  toolTimeout : Duration
  parallel : Bool
  contextTokens : Nat

/-- What a turn came to. -/
structure TurnOutcome where
  answer : String
  exchanges : List Exchange
  iterations : Nat
  incomplete : Bool

/-- Everything that a turn works with. -/
structure Orchestrator (σ : Type) where
  oracle : Oracle σ
  registry : Registry σ
  limits : TurnLimits
  schedule : Schedule := .inOrder

/-- The start of every answer that the iteration limit forced. -/
def incompleteMarker : String := "[incomplete]"

/-- The answer put together when the iterations have run out: every successful result so far. -/
def incompleteAnswer (iterations : Nat) (exchanges : List Exchange) : String :=
  let successes := exchanges.filter (·.result.isSuccess)
  let item (exchange : Exchange) : String :=
    "\n- " ++ exchange.call.name ++ ": " ++ exchange.result.observation
  incompleteMarker ++ " Stopped after " ++ toString iterations ++
    " tool iteration(s) without a final answer." ++
    if successes.isEmpty then " No tool produced a usable result."
    else " Results gathered so far:" ++ String.join (successes.map item)

namespace Orchestrator

variable {σ : Type}

/-- Asks the oracle, and makes sure that its decision can be used. -/
def decide (self : Orchestrator σ) (messages : List Message) (world : σ) :
    Except Failure Decision × σ :=
  let ask := self.oracle.decide messages self.registry.catalogue
  match ask.within self.limits.oracleTimeout world with
  | (none, world) =>
    (.error (.oracleUnavailable ("no decision within " ++ self.limits.oracleTimeout.text)), world)
  | (some (.error error), world) => (.error error.toFailure, world)
  | (some (.ok (.toolCalls [])), world) =>
    (.error (.oracleUnavailable "decision contained no tool calls"), world)
  | (some (.ok decision), world) => (.ok decision, world)

/-- Resolves calls one after another. -/
def resolveInTurn (self : Orchestrator σ) : List ToolCall → σ → List ToolResult × σ
  | [], world => ([], world)
  | call :: rest, world =>
    let (result, world) := self.registry.resolve self.limits.toolTimeout call world
    let (results, world) := self.resolveInTurn rest world
    (result :: results, world)

/-- Resolves the calls at the given positions, each result with its position. -/
def resolveAt (self : Orchestrator σ) (calls : List ToolCall) :
    List Nat → σ → List (Nat × ToolResult) × σ
  | [], world => ([], world)
  | position :: rest, world =>
    match calls[position]? with
    | none => self.resolveAt calls rest world
    | some call =>
      let (result, world) := self.registry.resolve self.limits.toolTimeout call world
      let (results, world) := self.resolveAt calls rest world
      ((position, result) :: results, world)

/-- Resolves calls concurrently: they act in the order of the schedule, and their results are put
back in the order of the calls. -/
def resolveTogether (self : Orchestrator σ) (calls : List ToolCall) (world : σ) :
    List ToolResult × σ :=
  let (results, world) := self.resolveAt calls (self.schedule.order calls.length) world
  ((List.range calls.length).filterMap fun position => results.lookup position, world)

/-- Resolves every call of a batch; the results are in the order of the calls. -/
def resolveBatch (self : Orchestrator σ) (calls : List ToolCall) (world : σ) :
    List ToolResult × σ :=
  if self.limits.parallel then self.resolveTogether calls world
  else self.resolveInTurn calls world

/-- Continues a turn; at most `more + 1` further batches are run. -/
def continueTurn (self : Orchestrator σ) : (more : Nat) → (window : Window) →
    (exchanges : List Exchange) → (iterations : Nat) → σ → Except Failure TurnOutcome × σ
  | more, window, exchanges, iterations, world =>
    match self.decide window.messages world with
    | (.error failure, world) => (.error failure, world)
    | (.ok (.finalAnswer answer), world) => (.ok ⟨answer, exchanges, iterations, false⟩, world)
    | (.ok (.toolCalls calls), world) =>
      let (results, world) := self.resolveBatch calls world
      let window := (window.add (.issuing calls)).addAll (results.map .observing)
      let exchanges := exchanges ++ List.zipWith Exchange.mk calls results
      let iterations := iterations + 1
      match more with
      | 0 => (.ok ⟨incompleteAnswer iterations exchanges, exchanges, iterations, true⟩, world)
      | more + 1 => self.continueTurn more window exchanges iterations world

/-- Runs one turn. -/
def run (self : Orchestrator σ) (systemPrompt userInput : String) (world : σ) :
    Except Failure TurnOutcome × σ :=
  let window := (Window.empty self.limits.contextTokens).addAll
    [.system systemPrompt, .user userInput]
  -- Even a limit of zero is only looked at after the first batch.
  self.continueTurn (self.limits.maxIterations - 1) window [] 0 world

end Orchestrator

end ToolAssistant
