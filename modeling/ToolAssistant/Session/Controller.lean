import ToolAssistant.Conversation.Prompt
import ToolAssistant.Orchestration
import ToolAssistant.Session.Command
import ToolAssistant.Session.Console

/-!
# Sessions

A session runs the queries of one user and remembers which turns were completed.  Each query is
looked up in memory, answered by the orchestration loop and stored; a turn that fails is neither
stored nor recorded, and never ends the session.

## Strategy

A line of input is first answered as a whole (`Controller.respond`: new state, new world and the
text to show) and then shown.  The interactive loop folds this over the lines.
-/

namespace ToolAssistant

/-- Everything that a session works with.  `stamp` gives a finished turn its identifier and time. -/
structure Controller (σ : Type) where
  orchestrator : Orchestrator σ
  instructions : String
  gateway : MemoryGateway σ
  userId : String
  stamp : σ → (String × Instant) × σ

/-- The state of a session. -/
structure Session where
  history : List Turn
  active : Bool

/-- A session that has not begun. -/
def Session.fresh : Session := ⟨[], true⟩

namespace Controller

variable {σ : Type}

/-- Runs one query through memory, prompt and loop.  The turn is stored and recorded if it is
completed. -/
def runTurn (self : Controller σ) (session : Session) (input : String) (world : σ) :
    Except Failure Turn × Session × σ :=
  let (retrieval, world) := self.gateway.retrieve input self.userId world
  let prompt := Prompt.compose self.instructions self.orchestrator.registry.catalogue retrieval
  match self.orchestrator.run prompt input world with
  | (.error failure, world) => (.error failure, session, world)
  | (.ok outcome, world) =>
    let ((id, timestamp), world) := self.stamp world
    let turn : Turn :=
      { id, timestamp, userInput := input, answer := outcome.answer
        exchanges := outcome.exchanges, iterations := outcome.iterations
        incomplete := outcome.incomplete }
    let (_, world) := self.gateway.remember turn self.userId world
    (.ok turn, { session with history := session.history ++ [turn] }, world)

/-! ## What is shown -/

/-- A line of one character. -/
def rule (c : Char) : String :=
  String.ofList (List.replicate 70 c) ++ "\n"

/-- The text at the start of a session. -/
def banner (self : Controller σ) : String :=
  rule '=' ++ " Recall - tool-calling assistant with memory\n" ++ rule '=' ++
    "Commands:\n" ++
    "  - type your question to chat\n" ++
    "  - 'exit', 'quit', 'bye', 'q' to end the conversation\n" ++
    "  - 'clear' to see how many turns this session has had\n" ++
    "Tools: " ++ String.intercalate ", " self.orchestrator.registry.names ++ "\n" ++
    "Memory: " ++ self.gateway.backendName ++ "\n" ++ rule '-' ++ "\n"

/-- The text before each line of input. -/
def inputPrompt : String := "You: "

/-- The text shown for a turn. -/
def turnText : Except Failure Turn → String
  | .ok turn => "Assistant: " ++ turn.answer ++ "\n\n"
  | .error failure =>
    "\nError: " ++ failure.hint ++ "\nPlease try again or type 'exit' to quit.\n\n"

/-- The text at the end of a session. -/
def farewell : String := "\nGoodbye! Your conversation has been saved to memory.\n"

/-- The text that reports on a session. -/
def reportText (session : Session) : String :=
  "\nYou've had " ++ toString session.history.length ++
    " conversation turn(s) in this session.\n\n"

/-! ## The interactive loop -/

/-- Answers a command: the text to show, and the session and world after it. -/
def respond (self : Controller σ) (command : SessionCommand) (session : Session) (world : σ) :
    String × Session × σ :=
  match command with
  | .empty => ("Please enter a message.\n\n", session, world)
  | .exit => (farewell, session, world)
  | .info => (reportText session, session, world)
  | .query text =>
    let (result, session, world) := self.runTurn session text world
    (turnText result, session, world)

/-- How an interactive session can fail. -/
inductive ConsoleError where
  | unreadableInput
  | outputFull
  deriving DecidableEq, Repr

/-- How far an interactive session got. -/
structure Run (σ : Type) where
  result : Except ConsoleError Unit
  session : Session
  output : Output
  world : σ

/-- Runs the lines of an interactive session up to the first exit command. -/
def runLines (self : Controller σ) (session : Session) (output : Output) (world : σ) :
    List InputLine → Run σ
  | [] =>
    match output.write (inputPrompt ++ "\n") with
    | (false, output) => ⟨.error .outputFull, session, output, world⟩
    | (true, output) => ⟨.ok (), { session with active := false }, output, world⟩
  | none :: _ =>
    match output.write inputPrompt with
    | (false, output) => ⟨.error .outputFull, session, output, world⟩
    | (true, output) => ⟨.error .unreadableInput, session, output, world⟩
  | some line :: rest =>
    match output.write inputPrompt with
    | (false, output) => ⟨.error .outputFull, session, output, world⟩
    | (true, output) =>
      let command := SessionCommand.ofLine line
      let (text, session, world) := self.respond command session world
      match output.write text with
      | (false, output) => ⟨.error .outputFull, session, output, world⟩
      | (true, output) =>
        if command = .exit then ⟨.ok (), { session with active := false }, output, world⟩
        else self.runLines session output world rest

/-- Runs an interactive session.  One that has ended before only shows its banner. -/
def run (self : Controller σ) (session : Session) (lines : List InputLine) (output : Output)
    (world : σ) : Run σ :=
  match output.write self.banner with
  | (false, output) => ⟨.error .outputFull, session, output, world⟩
  | (true, output) =>
    if session.active then self.runLines session output world lines
    else ⟨.ok (), session, output, world⟩

end Controller

end ToolAssistant
