import ToolAssistant.Conversation.Decision
import ToolAssistant.Gemini.Reply
import ToolAssistant.Identifier
import ToolAssistant.Memory.Store
import ToolAssistant.World.System

/-!
# Rehearsals

A rehearsal runs the program in a world that follows a script: the oracle has its cues, the memory
store and the web service their answers, and every one of them notes down what it was asked.
-/

namespace ToolAssistant.Rehearsal

/-- What the oracle does at a cue. -/
inductive CueLine where
  | fails (error : OracleError)
  /-- Reads a reply of the model. -/
  | reads (reply : Json)
  | calls (calls : List ToolCall)
  /-- Answers with a text followed by that of the last message. -/
  | echoes (start : String)
  | answers (text : String)

/-- A cue of the oracle. -/
structure Cue where
  delay : Duration := .zero
  line : CueLine

/-- What the oracle was shown: the messages, and how many tools were on offer. -/
structure Showing where
  messages : List Message
  toolCount : Nat

/-- How a store behaves at one request. -/
structure StoreCue where
  delay : Duration := .zero
  failure : Option Failure := none

/-- A request that a store was given. -/
inductive StoreRequest where
  | search (query userId : String) (limit : Nat)
  | add (transcript userId : String) (tools : List String)

/-- What the web service does with a request. -/
inductive WebCue where
  | answers (response : Http.Response)
  | closes
  | hangs

/-- A world that follows a script. -/
structure World where
  /-- The time that the clock shows. -/
  time : Instant := ⟨⟨2024, 2, 25⟩, 43200, 0⟩
  cues : List Cue := []
  showings : List Showing := []
  searchCues : List StoreCue := []
  addCues : List StoreCue := []
  storeRequests : List StoreRequest := []
  /-- The host of the web service. -/
  host : String := "service.test"
  webCues : List WebCue := []
  webRequests : List Http.Request := []
  /-- How many identifiers have been given. -/
  serial : Nat := 0
  files : FileTree := ⟨[], []⟩

/-- A fresh identifier. -/
def fresh (world : World) : String × World :=
  (Identifier.ofSerial world.serial, { world with serial := world.serial + 1 })

/-! ## The oracle -/

/-- What the oracle says at a cue. -/
def CueLine.decide (messages : List Message) (world : World) :
    CueLine → Except OracleError Decision × World
  | .fails error => (.error error, world)
  | .reads reply => Gemini.readReply fresh reply world
  | .calls batch => (.ok (.toolCalls batch), world)
  | .echoes start =>
    (.ok (.finalAnswer (start ++ (messages.getLast?.map (·.content)).getD "")), world)
  | .answers text => (.ok (.finalAnswer text), world)

/-- The oracle of a rehearsal. -/
def oracle : Oracle World where
  name := "scripted"
  decide messages catalogue := fun world =>
    let world := { world with showings := world.showings ++ [Showing.mk messages catalogue.length] }
    match world.cues with
    | [] => (.ends .zero (.error (.protocol "script exhausted")), world)
    | cue :: rest =>
      let (decision, world) := cue.line.decide messages { world with cues := rest }
      (.ends cue.delay decision, world)

/-! ## Tools -/

/-- What a tool does with its arguments. -/
inductive ToolAct where
  | tellsText (key : String)
  | tellsInteger (key : String)
  | fails (failure : Failure)
  | tells (output : Json)
  | tellsArguments

/-- The output of a tool. -/
def ToolAct.perform (args : Args) : ToolAct → Except Failure Json
  | .tellsText key => (args.string key).map .string
  | .tellsInteger key => (args.int64 key).map .ofInt
  | .fails failure => .error failure
  | .tells output => .ok output
  | .tellsArguments => .ok (.object args.values)

/-- A tool of a rehearsal. -/
def tool {σ : Type} (spec : ToolSpec) (delay : Duration) (act : ToolAct) : Tool σ where
  spec := spec
  invoke args := fun world => (.ends delay (act.perform args), world)

/-! ## The memory store -/

/-- What a store answers at the first cue, if there is one. -/
def storeAnswer {α : Type} (cues : List StoreCue) (answer : α) : Timed (Except Failure α) :=
  let cue := cues.head?.getD {}
  .ends cue.delay
    (match cue.failure with
    | some failure => .error failure
    | none => .ok answer)

/-- The store of a rehearsal, which finds the same snippets for every query. -/
def store (snippets : List Snippet) : MemoryStore World where
  name := "scripted"
  search query userId limit := fun world =>
    (storeAnswer world.searchCues snippets,
      { world with
        searchCues := world.searchCues.drop 1
        storeRequests := world.storeRequests ++ [.search query userId limit] })
  add turn userId := fun world =>
    (storeAnswer world.addCues (),
      { world with
        addCues := world.addCues.drop 1
        storeRequests := world.storeRequests ++ [.add turn.transcript userId turn.toolsUsed] })

/-! ## The web service -/

/-- What is answered when the script has ended. -/
def exhausted : Http.Response := ⟨500, "script exhausted"⟩

/-- The client of a rehearsal; it reaches one host only. -/
def client : Http.Client World := fun request world =>
  if request.url.secure || request.url.authority != world.host then (.ends .zero none, world)
  else
    let noted := { world with
      webRequests := world.webRequests ++ [request], webCues := world.webCues.drop 1 }
    match world.webCues with
    | [] => (.ends .zero (some exhausted), noted)
    | .answers response :: _ => (.ends .zero response.received?, noted)
    | .closes :: _ => (.ends .zero none, noted)
    | .hangs :: _ => (.never, noted)

/-- The system of a rehearsal, without a keychain. -/
def system (home : String) : System World where
  client := client
  fresh := fresh
  now world := world.time
  today world := world.time.date
  files world := world.files
  setFiles files world := { world with files }
  keychain := ⟨some "no keychain is available"⟩
  home := home

end ToolAssistant.Rehearsal
