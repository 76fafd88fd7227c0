import ToolAssistant.Program.Assistant

/-!
# The commands

What each command prints and whether it succeeds.  Output is text for people, or JSON.
-/

namespace ToolAssistant

/-- Why a command did not succeed. -/
inductive CommandError where
  | failure (cause : Failure)
  | unknownSecret (name : String)
  deriving DecidableEq, Repr

namespace CommandError

/-- The wording of an error. -/
def message : CommandError → String
  | failure cause => cause.message
  | unknownSecret name =>
    "Unknown secret '" ++ name ++ "'. Expected one of: " ++ String.intercalate ", " knownSecrets

/-- What lies behind an error, if that is not in its wording. -/
def cause? : CommandError → Option String
  | failure (.io detail) => some detail
  | _ => none

/-- The error as it is reported at the end of the program. -/
def report (error : CommandError) : String :=
  "Error: " ++ error.message ++ "\n" ++
    match error.cause? with
    | some cause => "\nCaused by:\n    " ++ cause ++ "\n"
    | none => ""

end CommandError

/-- What a command printed, and why it failed if it did. -/
structure CommandReport where
  output : String
  error : Option CommandError := none

namespace CommandReport

/-- A command that could not start. -/
def failed (cause : Failure) : CommandReport := ⟨"", some (.failure cause)⟩

/-- A line of output. -/
def line (text : String) : String := text ++ "\n"

/-- A value as output. -/
def jsonLine (value : Json) : String := line value.pretty

/-! ## Commands that need no services -/

/-- Evaluates an expression. -/
def eval (json : Bool) (expression : String) : CommandReport :=
  match Arithmetic.evaluate expression, json with
  | .ok value, false => ⟨line value.text, none⟩
  | .ok value, true =>
    ⟨jsonLine (.ofFields [("expression", .string expression), ("result", value.toJson)]), none⟩
  | .error error, false =>
    ⟨line ("✗ Evaluation error: " ++ error.message), some (.failure (Calculator.failure error))⟩
  | .error error, true =>
    ⟨jsonLine (.ofFields [("expression", .string expression), ("error", .string error.message)]),
      some (.failure (Calculator.failure error))⟩

/-- A parameter in the listing of tools. -/
def paramLine (param : Param) : String :=
  line ("    - " ++ param.name ++ " (" ++ param.kind.name ++ ", " ++
    (if param.required then "required" else "optional") ++ "): " ++ param.description)

/-- A tool in the listing of tools. -/
def toolText (spec : ToolSpec) : String :=
  line ("  " ++ spec.name) ++ line ("    " ++ spec.description) ++
    String.join (spec.schema.params.map paramLine) ++ line ""

/-- The listing of tools. -/
def catalogueText (catalogue : List ToolSpec) : String :=
  if catalogue.isEmpty then line "No tools enabled"
  else
    line ("Available tools (" ++ toString catalogue.length ++ "):") ++ line "" ++
      String.join (catalogue.map toolText)

/-- The listing of tools as data. -/
def catalogueJson (catalogue : List ToolSpec) : Json :=
  .ofFields
    [("tools",
      .array (catalogue.map fun spec =>
        .ofFields
          [("name", .string spec.name), ("description", .string spec.description),
            ("parameters", spec.schema.toJsonSchema)]))]

variable {σ : Type}

/-- Lists the tools on offer; no key has to be there for that. -/
def tools (place : Workplace σ) (json : Bool) : CommandReport :=
  let key := (place.secret? weatherKeyName).getD ⟨""⟩
  match Registry.builtin place.surroundings place.settings.tools (some key) with
  | .error failure => failed failure
  | .ok registry =>
    let catalogue := registry.catalogue
    ⟨if json then jsonLine (catalogueJson catalogue) else catalogueText catalogue, none⟩

/-! ## Secrets -/

/-- The credential of a name, in any case. -/
def knownSecret (name : String) : Except CommandError String :=
  match knownSecrets.find? (· == name.map Char.toUpper) with
  | some known => .ok known
  | none => .error (.unknownSecret name)

/-- Stores a credential in the keychain. -/
def secretSet (keychain : Keychain) (name value : String) : CommandReport :=
  match knownSecret name with
  | .error error => ⟨"", some error⟩
  | .ok name =>
    match keychain.store name value with
    | .error failure => failed failure
    | .ok () => ⟨line ("✓ Stored " ++ name ++ " in the system keychain"), none⟩

/-- Deletes a credential from the keychain. -/
def secretRemove (keychain : Keychain) (name : String) : CommandReport :=
  match knownSecret name with
  | .error error => ⟨"", some error⟩
  | .ok name =>
    match keychain.delete name with
    | .error failure => failed failure
    | .ok () => ⟨line ("✓ Removed " ++ name ++ " from the system keychain"), none⟩

/-! ## Conversations -/

/-- Runs a command that needs a session. -/
def withController (place : Workplace σ) (world : σ)
    (command : Controller σ → σ → CommandReport × σ) : CommandReport × σ :=
  match place.controller world with
  | (.error failure, world) => (failed failure, world)
  | (.ok controller, world) => command controller world

/-- What is printed for an answered question. -/
def turnOutput (json : Bool) (turn : Turn) : String :=
  if json then
    let status := if turn.incomplete then "incomplete" else "completed"
    jsonLine (.ofFields [("status", .string status), ("turn", turn.toJson)])
  else line turn.answer

/-- What is printed for a question that was not answered. -/
def failureOutput (json : Bool) (failure : Failure) : String :=
  if json then
    jsonLine (.ofFields
      [("status", .string "failed"), ("error", .string failure.message),
        ("hint", .string failure.hint)])
  else line ("✗ " ++ failure.hint)

/-- Answers one question. -/
def ask (place : Workplace σ) (json : Bool) (query : String) (world : σ) : CommandReport × σ :=
  withController place world fun controller world =>
    match controller.runTurn .fresh query world with
    | (.ok turn, _, world) => (⟨turnOutput json turn, none⟩, world)
    | (.error failure, _, world) => (⟨failureOutput json failure, some (.failure failure)⟩, world)

/-- The questions of the demonstration, each with its title. -/
def demoQueries : List (String × String) :=
  [("Math Calculation",
      "Evaluate this arithmetic expression: (234 * 12) + 98 and provide the result clearly."),
    ("Multi-Tool Usage",
      "If I buy 3 items priced at 499 each, calculate the total cost and tell me the expected " ++
        "delivery date if shipping takes 7 days."),
    ("Weather API",
      "Fetch today's weather in Chandigarh and suggest suitable clothing based on the " ++
        "temperature and conditions.")]

/-- What is printed for the question at a position of the demonstration. -/
def demoText (position : Nat) (title : String) : Except Failure Turn → String
  | .ok turn =>
    line ("\n--- Example " ++ toString position ++ ": " ++ title ++ " ---") ++ line turn.answer
  | .error failure =>
    line ("\n--- Example " ++ toString position ++ " FAILED ---") ++
      line ("Error: " ++ failure.hint)

/-- A question of the demonstration as data. -/
def demoJson (title : String) : Except Failure Turn → Json
  | .ok turn =>
    .ofFields
      [("title", .string title), ("status", .string "completed"), ("turn", turn.toJson)]
  | .error failure =>
    .ofFields
      [("title", .string title), ("status", .string "failed"), ("error", .string failure.message)]

/-- Asks the questions of the demonstration one after another; one that fails does not stop the
others. -/
def runDemo (controller : Controller σ) : Session → List (String × String) → σ →
    List (String × Except Failure Turn) × σ
  | _, [], world => ([], world)
  | session, (title, query) :: rest, world =>
    let (result, session, world) := controller.runTurn session query world
    let (results, world) := runDemo controller session rest world
    ((title, result) :: results, world)

/-- Runs the demonstration. -/
def demo (place : Workplace σ) (json : Bool) (world : σ) : CommandReport × σ :=
  withController place world fun controller world =>
    let (results, world) := runDemo controller .fresh demoQueries world
    let output :=
      if json then
        let examples := results.map fun (title, result) => demoJson title result
        jsonLine (.ofFields [("examples", .array examples)])
      else
        String.join ((results.zipIdx 1).map fun ((title, result), position) =>
          demoText position title result)
    (⟨output, none⟩, world)

/-- Why an interactive session failed, as a failure. -/
def consoleFailure : Controller.ConsoleError → Failure
  | .unreadableInput => .io FileError.invalidText.message
  | .outputFull => .io "output is full"

/-- Runs an interactive session over lines of input. -/
def chat (place : Workplace σ) (input : List InputLine) (world : σ) : CommandReport × σ :=
  withController place world fun controller world =>
    let run := controller.run .fresh input .unbounded world
    let error :=
      match run.result with
      | .ok () => none
      | .error error => some (.failure (consoleFailure error))
    (⟨run.output.text, error⟩, run.world)

end CommandReport

end ToolAssistant
